import ApiTests.Py.Url
import Mathlib.Data.Rat.Defs
import Mathlib.Data.List.Perm.Basic

/-!
# Public rate policies (`client.py:19-75`)

A request target belongs to a policy when the path `urlsplit` finds is one of the policy's path
families or lies below one. `classify_public_rate_policy` takes the first policy that matches.

Results:
* `inFamily_unique`: no path lies in two families.
* `matches_unique`: no target belongs to two policies.
* `classifyPublicRatePolicy_perm`: **the order of the policies does not matter**.
-/

namespace ApiTests.Client

open Py

/-- `PublicRatePolicyName`. -/
inductive PublicRatePolicyName where
  | loginInitiation
  | loginCompletion
  | sessionOperations
  | apiRequests
  deriving Repr, DecidableEq

/-- `PublicRatePolicy`. -/
structure PublicRatePolicy where
  name : PublicRatePolicyName
  pathFamilies : List Text
  requestsPerSecond : ℚ
  deriving Repr, DecidableEq

/-- `path == family or path.startswith(f"{family}/")`. -/
def inFamily (path family : Text) : Bool :=
  path == family || (family ++ lit "/").isPrefixOf path

namespace PublicRatePolicy

/-- `PublicRatePolicy.matches`; `urlsplit` may raise. -/
def «matches» (checks : NetlocChecks) (policy : PublicRatePolicy) (requestTarget : Text) :
    Except Text Bool :=
  (urlsplit checks requestTarget).map fun parts =>
    policy.pathFamilies.any fun family => inFamily parts.path family

end PublicRatePolicy

def loginInitiationRatePolicy : PublicRatePolicy :=
  ⟨.loginInitiation, [lit "/oauth2"], 4 / 5⟩

def loginCompletionRatePolicy : PublicRatePolicy :=
  ⟨.loginCompletion, [lit "/login/oauth2"], 8 / 5⟩

def sessionOperationsRatePolicy : PublicRatePolicy :=
  ⟨.sessionOperations, [lit "/auth", lit "/logout"], 4⟩

def apiRatePolicy : PublicRatePolicy :=
  ⟨.apiRequests, [lit "/api"], 8⟩

/-- `PUBLIC_RATE_POLICIES`. -/
def publicRatePolicies : List PublicRatePolicy :=
  [loginInitiationRatePolicy, loginCompletionRatePolicy, sessionOperationsRatePolicy, apiRatePolicy]

/-- `next((policy for policy in policies if policy.matches(request_target)), None)`. -/
def firstMatching (checks : NetlocChecks) (requestTarget : Text) :
    List PublicRatePolicy → Except Text (Option PublicRatePolicy)
  | [] => .ok none
  | policy :: policies =>
    match policy.matches checks requestTarget with
    | .error message => .error message
    | .ok true => .ok (some policy)
    | .ok false => firstMatching checks requestTarget policies

/-- `classify_public_rate_policy`. -/
def classifyPublicRatePolicy (checks : NetlocChecks) (requestTarget : Text) :
    Except Text (Option PublicRatePolicy) :=
  firstMatching checks requestTarget publicRatePolicies

/-! ## Families of paths -/

/-- In a family, as one prefix condition. -/
theorem inFamily_iff {path family : Text} :
    inFamily path family = true ↔ family ++ lit "/" <+: path ++ lit "/" := by
  rw [inFamily, Bool.or_eq_true, beq_iff_eq, List.isPrefixOf_iff_prefix]
  constructor
  · rintro (rfl | h)
    · exact List.prefix_refl _
    · exact h.trans (List.prefix_append _ _)
  · intro h
    rcases List.prefix_concat_iff.mp h with h | h
    · exact Or.inl (List.append_cancel_right h).symm
    · exact Or.inr h

/-- Of two different policies no family lies in a family of the other. -/
theorem families_apart : ∀ policy ∈ publicRatePolicies, ∀ policy' ∈ publicRatePolicies,
    policy.name ≠ policy'.name → ∀ family ∈ policy.pathFamilies, ∀ family' ∈ policy'.pathFamilies,
      ¬ family ++ lit "/" <+: family' ++ lit "/" := by
  decide

/-- The policies have different names. -/
theorem eq_of_name_eq {policy policy' : PublicRatePolicy} (h : policy ∈ publicRatePolicies)
    (h' : policy' ∈ publicRatePolicies) (hname : policy.name = policy'.name) : policy = policy' := by
  simp only [publicRatePolicies, List.mem_cons, List.not_mem_nil, or_false] at h h'
  rcases h with rfl | rfl | rfl | rfl <;> rcases h' with rfl | rfl | rfl | rfl <;>
    first
    | rfl
    | exact nomatch hname

/-- No path lies in families of two policies. -/
theorem inFamily_unique {policy policy' : PublicRatePolicy} (h : policy ∈ publicRatePolicies)
    (h' : policy' ∈ publicRatePolicies) {family family' path : Text}
    (hfamily : family ∈ policy.pathFamilies) (hfamily' : family' ∈ policy'.pathFamilies)
    (hin : inFamily path family = true) (hin' : inFamily path family' = true) :
    policy = policy' := by
  refine eq_of_name_eq h h' (by_contra fun hne => ?_)
  rcases List.prefix_or_prefix_of_prefix (inFamily_iff.mp hin) (inFamily_iff.mp hin') with hp | hp
  · exact families_apart policy h policy' h' hne family hfamily family' hfamily' hp
  · exact families_apart policy' h' policy h (Ne.symm hne) family' hfamily' family hfamily hp

/-! ## Classification -/

section

variable {checks : NetlocChecks} {target : Text}

/-- **A target belongs to at most one policy.** -/
theorem matches_unique {policy policy' : PublicRatePolicy} (h : policy ∈ publicRatePolicies)
    (h' : policy' ∈ publicRatePolicies) (hm : policy.matches checks target = .ok true)
    (hm' : policy'.matches checks target = .ok true) : policy = policy' := by
  unfold PublicRatePolicy.matches at hm hm'
  cases hurl : urlsplit checks target with
  | error message =>
    rw [hurl] at hm
    exact nomatch hm
  | ok parts =>
    rw [hurl] at hm hm'
    obtain ⟨family, hfamily, hin⟩ := List.any_eq_true.mp (Except.ok.inj hm)
    obtain ⟨family', hfamily', hin'⟩ := List.any_eq_true.mp (Except.ok.inj hm')
    exact inFamily_unique h h' hfamily hfamily' hin hin'

/-- What the scan returns is a policy of the list that matches. -/
theorem firstMatching_eq_some : ∀ {policies : List PublicRatePolicy} {policy : PublicRatePolicy},
    firstMatching checks target policies = .ok (some policy) →
      policy ∈ policies ∧ policy.matches checks target = .ok true
  | p :: ps, policy, h => by
    unfold firstMatching at h
    cases hm : p.matches checks target with
    | error message =>
      rw [hm] at h
      exact nomatch h
    | ok b =>
      rw [hm] at h
      cases b with
      | true =>
        obtain rfl : p = policy := Option.some.inj (Except.ok.inj h)
        exact ⟨List.mem_cons_self, hm⟩
      | false =>
        obtain ⟨hmem, hpolicy⟩ := firstMatching_eq_some h
        exact ⟨List.mem_cons_of_mem p hmem, hpolicy⟩

/-- Nothing is returned only where nothing matches. -/
theorem firstMatching_eq_none : ∀ {policies : List PublicRatePolicy},
    firstMatching checks target policies = .ok none →
      ∀ policy ∈ policies, policy.matches checks target = .ok false
  | [], _, _, hp => absurd hp List.not_mem_nil
  | p :: ps, h, policy, hpolicy => by
    unfold firstMatching at h
    cases hm : p.matches checks target with
    | error message =>
      rw [hm] at h
      exact nomatch h
    | ok b =>
      rw [hm] at h
      cases b with
      | true => exact nomatch h
      | false =>
        rcases List.mem_cons.mp hpolicy with rfl | hpolicy
        · exact hm
        · exact firstMatching_eq_none h policy hpolicy

/-- An error of `urlsplit` is the error of every scan that tries a policy. -/
theorem firstMatching_error {message : Text} (h : urlsplit checks target = .error message) :
    ∀ {policies : List PublicRatePolicy}, policies ≠ [] →
      firstMatching checks target policies = .error message
  | [], hne => absurd rfl hne
  | p :: ps, _ => by
    have hm : p.matches checks target = .error message := by
      rw [PublicRatePolicy.matches, h]
      rfl
    rw [firstMatching, hm]

/-- Where `urlsplit` raises nothing the scan raises nothing. -/
theorem firstMatching_ok {parts : SplitResult} (h : urlsplit checks target = .ok parts) :
    ∀ policies : List PublicRatePolicy, ∃ found, firstMatching checks target policies = .ok found
  | [] => ⟨none, rfl⟩
  | p :: ps => by
    obtain ⟨b, hb⟩ : ∃ b, p.matches checks target = .ok b :=
      ⟨_, by rw [PublicRatePolicy.matches, h]; rfl⟩
    rw [firstMatching, hb]
    cases b with
    | true => exact ⟨_, rfl⟩
    | false => exact firstMatching_ok h ps

/-- **The order of the policies does not matter.** -/
theorem classifyPublicRatePolicy_perm {policies : List PublicRatePolicy}
    (hperm : policies.Perm publicRatePolicies) :
    firstMatching checks target policies = classifyPublicRatePolicy checks target := by
  cases hurl : urlsplit checks target with
  | error message =>
    have hne : policies ≠ [] := fun hnil => by
      subst hnil
      exact absurd hperm.nil_eq.symm (List.cons_ne_nil _ _)
    have hall : publicRatePolicies ≠ [] := List.cons_ne_nil _ _
    rw [classifyPublicRatePolicy, firstMatching_error hurl hne, firstMatching_error hurl hall]
  | ok parts =>
    obtain ⟨found, hfound⟩ := firstMatching_ok hurl policies
    obtain ⟨found', hfound'⟩ := firstMatching_ok hurl publicRatePolicies
    rw [classifyPublicRatePolicy, hfound, hfound', Except.ok.injEq]
    have hkeep : ∀ {ps ps' : List PublicRatePolicy} {p : PublicRatePolicy}, ps.Perm ps' →
        firstMatching checks target ps = .ok (some p) → firstMatching checks target ps' ≠ .ok none := by
      intro ps ps' p hps h h'
      obtain ⟨hmem, hm⟩ := firstMatching_eq_some h
      rw [firstMatching_eq_none h' p (hps.mem_iff.mp hmem)] at hm
      exact absurd (Except.ok.inj hm) Bool.false_ne_true
    cases found with
    | none =>
      cases found' with
      | none => rfl
      | some p' => exact absurd hfound (hkeep hperm.symm hfound')
    | some p =>
      cases found' with
      | none => exact absurd hfound' (hkeep hperm hfound)
      | some p' =>
        obtain ⟨hmem, hm⟩ := firstMatching_eq_some hfound
        obtain ⟨hmem', hm'⟩ := firstMatching_eq_some hfound'
        rw [matches_unique (hperm.mem_iff.mp hmem) hmem' hm hm']

end

end ApiTests.Client
