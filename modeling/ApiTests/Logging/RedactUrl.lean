import ApiTests.Logging.RedactText
import ApiTests.Py.Query

/-!
# Logged URLs (`logging.py:191-212`)

`_redact_url` puts a mark for the segment behind each `/v1/users/` that its pattern finds and for
the values of sensitive query parameters, puts the URL together again and redacts the result as
free text. The pattern goes on behind what it has found, so that of `/v1/users` several times in a
row it finds the first, the third, and so on: `usersRun` counts them, and `markSegments` marks what
stands behind an odd number.

Results:
* `sub_usersRe`: **the pattern marks a non-empty segment behind an odd number of `/v1/users`**.
* `markSegments_eq_iff`: two paths with other users have one redacted path iff every user that
  differs stands behind an odd number.
* `redactUrl_noninterference`: **URLs that differ in users and in sensitive values are logged
  alike** if every user that differs stands behind an odd number of `/v1/users`, and only then are
  they put together alike.
* `nestedUser_example`: behind two, the user is logged.
-/

namespace ApiTests.Logging

open Py

/-! ## The program -/

/-- `SENSITIVE_OAUTH_QUERY_NAMES`. -/
def sensitiveOauthQueryNames : List Text :=
  [lit "client_id", lit "code", lit "code_challenge", lit "id_token_hint", lit "nonce", lit "state"]

/-- `SENSITIVE_PROFILE_QUERY_NAMES`. -/
def sensitiveProfileQueryNames : List Text :=
  [lit "displayname", lit "email", lit "id", lit "idpsub"]

/-- `(?i)(/v1/users/)[^/?#]+`. -/
def usersRe : Re := .seq (.group 1 (.strI (lit "/v1/users/"))) (.rep 1 fun c => !isDelimiter c)

/-- Whether `_redact_url` replaces the value of a parameter. -/
def isSensitiveName (unicode : Unicode) (name : Text) : Bool :=
  (sensitiveOauthQueryNames ++ sensitiveProfileQueryNames).contains (unicode.casefold name)

/-- The pairs that `_redact_url` encodes. -/
def redactedPairs (unicode : Unicode) (query : Text) : List (Text × Text) :=
  (parseQsl query).map fun pair =>
    (pair.1, if isSensitiveName unicode pair.1 then redactedMark else pair.2)

/-- What `_redact_url` can raise. -/
inductive UrlError where
  /-- The `ValueError` of `urlsplit`. -/
  | valueError (message : Text)
  /-- A lone surrogate has no UTF-8. -/
  | unicodeEncodeError
  deriving Repr, DecidableEq

/-- The URL that `_redact_url` puts together. -/
def rebuiltUrl (checks : NetlocChecks) (unicode : Unicode) (url : Text) : Except UrlError Text :=
  match urlsplit checks url with
  | .error message => .error (.valueError message)
  | .ok parsed =>
    match urlencode (redactedPairs unicode parsed.query) with
    | none => .error .unicodeEncodeError
    | some query =>
      .ok (urlunsplit { parsed with path := usersRe.sub keepGroup parsed.path, query })

/-- `_redact_url`. -/
def redactUrl (checks : NetlocChecks) (unicode : Unicode) (url : Text) : Except UrlError Text :=
  (rebuiltUrl checks unicode url).map (redactSensitiveText unicode)

/-! ## The pattern at a segment -/

/-- Whether a segment is the given one, case ignored. -/
def isLiteral (w segment : Text) : Bool := segment.map foldCase == w.map foldCase

theorem not_mem_of_isLiteral {w segment : Text} (h : isLiteral w segment = true)
    (hw : 47 ∉ w.map foldCase) : 47 ∉ segment := by
  intro hmem
  rw [isLiteral, beq_iff_eq] at h
  exact hw (h ▸ List.mem_map_of_mem hmem)

theorem not_mem_v1 {segment : Text} (h : isLiteral (lit "v1") segment = true) : 47 ∉ segment :=
  not_mem_of_isLiteral h (by decide)

theorem not_mem_users {segment : Text} (h : isLiteral (lit "users") segment = true) :
    47 ∉ segment :=
  not_mem_of_isLiteral h (by decide)

/-- What stands for `/v1/users/`. -/
theorem map_foldCase_users {w : Text} : w.map foldCase = (lit "/v1/users/").map foldCase ↔
    ∃ a b, w = 47 :: (a ++ 47 :: (b ++ [47])) ∧ isLiteral (lit "v1") a = true ∧
      isLiteral (lit "users") b = true := by
  have hsplit : (lit "/v1/users/").map foldCase = 47 :: ((lit "v1").map foldCase ++
      47 :: ((lit "users").map foldCase ++ [47])) := by decide
  rw [hsplit]
  constructor
  · intro h
    obtain ⟨c, w, rfl, hc, h⟩ := List.map_eq_cons_iff.mp h
    obtain ⟨a, w, rfl, ha, h⟩ := List.map_eq_append_iff.mp h
    obtain ⟨d, w, rfl, hd, h⟩ := List.map_eq_cons_iff.mp h
    obtain ⟨b, w, rfl, hb, h⟩ := List.map_eq_append_iff.mp h
    obtain ⟨e, w, rfl, he, h⟩ := List.map_eq_cons_iff.mp h
    obtain rfl := List.map_eq_nil_iff.mp h
    rw [eq_of_foldCase hc (by decide), eq_of_foldCase hd (by decide), eq_of_foldCase he (by decide)]
    exact ⟨a, b, rfl, beq_iff_eq.mpr ha, beq_iff_eq.mpr hb⟩
  · rintro ⟨a, b, rfl, ha, hb⟩
    have hfold : foldCase 47 = 47 := rfl
    simp only [List.map_cons, List.map_append, List.map_nil, beq_iff_eq.mp ha, beq_iff_eq.mp hb,
      hfold]

/-- What the pattern finds. -/
theorem first_usersRe {x m : Cursor} (h : usersRe.first x = some m) : ∃ a b u v,
    x.ahead = 47 :: (a ++ 47 :: (b ++ 47 :: (u ++ v))) ∧ isLiteral (lit "v1") a = true ∧
      isLiteral (lit "users") b = true ∧ u ≠ [] ∧ (∀ c ∈ u, (!isDelimiter c) = true) ∧
      headIn (fun c => !isDelimiter c) v = false ∧ m.ahead = v ∧
      m.get 1 = 47 :: (a ++ 47 :: (b ++ [47])) := by
  obtain ⟨z, hz, hm⟩ := Re.first_seq h
  obtain ⟨y, hy, g, hg, rfl⟩ := Re.mem_run_group.mp hz
  obtain ⟨w, v, hx, hw, rfl⟩ := Re.mem_run_strI hy
  obtain ⟨u, v, hv, hu, hstop, hlen, rfl⟩ := Re.first_rep hm
  obtain ⟨a, b, rfl, ha, hb⟩ := map_foldCase_users.mp hw
  rw [Cursor.after_ahead] at hg hv
  have hgroup : g = 47 :: (a ++ 47 :: (b ++ [47])) := List.append_cancel_right (hg.symm.trans hx)
  subst hgroup
  refine ⟨a, b, u, v, ?_, ha, hb, List.ne_nil_of_length_pos hlen, hu, hstop, rfl, rfl⟩
  rw [hx, show _ = u ++ v from hv]
  simp only [List.cons_append, List.append_assoc, List.nil_append]

/-- Where it can be found, the pattern finds something. -/
theorem first_usersRe_ne_none {x : Cursor} {a b u v : Text}
    (hx : x.ahead = 47 :: (a ++ 47 :: (b ++ 47 :: (u ++ v)))) (ha : isLiteral (lit "v1") a = true)
    (hb : isLiteral (lit "users") b = true) (hne : u ≠ [])
    (hu : ∀ c ∈ u, (!isDelimiter c) = true) : usersRe.first x ≠ none := by
  intro hnone
  have hliteral := map_foldCase_users.mpr ⟨a, b, rfl, ha, hb⟩
  have hahead : x.ahead = (47 :: (a ++ 47 :: (b ++ [47]))) ++ (u ++ v) := by
    rw [hx]
    simp only [List.cons_append, List.append_assoc, List.nil_append]
  refine Re.first_eq_none_iff.mp hnone _ (Re.mem_run_seq.mpr ⟨_, Re.mem_run_group.mpr
    ⟨_, Re.mem_run_strI_iff.mpr ⟨_, _, hahead, hliteral, rfl⟩, _, hahead, rfl⟩,
    Re.mem_run_rep.mpr ⟨u, v, rfl, hu, List.length_pos_iff.mpr hne, rfl⟩⟩)

/-! ## The pattern over a path -/

/-- Segments that hold none of `/?#`. -/
def Plain (segments : List Text) : Prop := ∀ s ∈ segments, ∀ c ∈ s, isDelimiter c = false

theorem Plain.tail {s : Text} {segments : List Text} (h : Plain (s :: segments)) :
    Plain segments :=
  fun t ht => h t (List.mem_cons_of_mem s ht)

theorem Plain.not_mem {segments : List Text} (h : Plain segments) {s : Text} (hs : s ∈ segments) :
    47 ∉ s := by
  intro hmem
  exact absurd (h s hs 47 hmem) (by decide)

theorem Plain.forall_head {s : Text} {segments : List Text} (h : Plain (s :: segments)) :
    ∀ c ∈ s, (!isDelimiter c) = true := by
  intro c hc
  rw [h s List.mem_cons_self c hc]
  rfl

/-- The segments of a path as the pattern leaves them. -/
def redactSegments : List Text → List Text
  | v1 :: users :: s :: segments =>
    if isLiteral (lit "v1") v1 ∧ isLiteral (lit "users") users ∧ s ≠ [] then
      v1 :: users :: redactedMark :: redactSegments segments
    else v1 :: redactSegments (users :: s :: segments)
  | segments => segments

/-- What the pattern finds at a segment. -/
theorem first_pathOf {behind a : Text} {segments : List Text} {m : Cursor}
    (hplain : Plain (a :: segments))
    (h : usersRe.first ⟨behind, pathOf (a :: segments), []⟩ = some m) :
    ∃ b s rest, segments = b :: s :: rest ∧ isLiteral (lit "v1") a = true ∧
      isLiteral (lit "users") b = true ∧ s ≠ [] ∧ m.ahead = pathOf rest ∧
      m.get 1 = 47 :: (a ++ 47 :: (b ++ [47])) := by
  obtain ⟨a', b', u, v, hahead, ha, hb, hne, hu, hstop, hm, hget⟩ := first_usersRe h
  rw [pathOf_cons, List.cons.injEq] at hahead
  obtain ⟨rfl, hpath⟩ := pathOf_cons_inj (hplain.not_mem List.mem_cons_self) (not_mem_v1 ha) rfl
    hahead.2
  cases segments with
  | nil => cases hpath
  | cons b segments =>
    rw [pathOf_cons, List.cons.injEq] at hpath
    obtain ⟨rfl, hafter⟩ := pathOf_cons_inj (hplain.tail.not_mem List.mem_cons_self)
      (not_mem_users hb) rfl hpath.2
    cases segments with
    | nil => cases hafter
    | cons s rest =>
      rw [pathOf_cons, List.cons.injEq] at hafter
      have hrest : headIn (fun c => !isDelimiter c) (pathOf rest) = false := headIn_pathOf rfl rest
      obtain ⟨rfl, rfl⟩ :=
        Re.append_inj_of_stop hplain.tail.tail.forall_head hrest hu hstop hafter.2
      exact ⟨b, s, rest, rfl, ha, hb, hne, hm, hget⟩

/-- Where the pattern finds nothing, a segment is kept. -/
theorem subFrom_segment {behind a : Text} {segments : List Text} (hplain : Plain (a :: segments))
    (h : usersRe.first ⟨behind, pathOf (a :: segments), []⟩ = none) :
    usersRe.subFrom keepGroup behind (pathOf (a :: segments)) =
      47 :: (a ++ usersRe.subFrom keepGroup ((47 :: a).reverse ++ behind) (pathOf segments)) := by
  have hkeep : usersRe.subFrom keepGroup behind ((47 :: a) ++ pathOf segments) =
      (47 :: a) ++ usersRe.subFrom keepGroup ((47 :: a).reverse ++ behind) (pathOf segments) := by
    refine Re.subFrom_keep fun u c v hsplit => ?_
    cases u with
    | nil =>
      obtain ⟨rfl, rfl⟩ := List.cons.inj hsplit
      exact h
    | cons d u =>
      have hc : c ∈ a := by
        rw [(List.cons.inj hsplit).2]
        exact List.mem_append_right u List.mem_cons_self
      rw [Re.first_eq_none_iff]
      intro y hy
      cases hfirst : usersRe.first ⟨(d :: u).reverse ++ behind, c :: (v ++ pathOf segments), []⟩ with
      | none => exact Re.first_eq_none_iff.mp hfirst y hy
      | some m =>
        obtain ⟨_, _, _, _, hahead, -⟩ := first_usersRe hfirst
        rw [(List.cons.inj hahead).1] at hc
        exact hplain.not_mem List.mem_cons_self hc
  exact hkeep

theorem subFrom_pathOf : ∀ {segments : List Text}, Plain segments → ∀ behind : Text,
    usersRe.subFrom keepGroup behind (pathOf segments) = pathOf (redactSegments segments)
  | [], _, _ => rfl
  | [a], hplain, behind => by
    cases hfirst : usersRe.first ⟨behind, pathOf [a], []⟩ with
    | none =>
      rw [subFrom_segment hplain hfirst]
      rfl
    | some m =>
      obtain ⟨b, s, rest, hsegments, -⟩ := first_pathOf hplain hfirst
      cases hsegments
  | [a, b], hplain, behind => by
    cases hfirst : usersRe.first ⟨behind, pathOf [a, b], []⟩ with
    | none =>
      rw [subFrom_segment hplain hfirst, subFrom_pathOf hplain.tail]
      rfl
    | some m =>
      obtain ⟨b, s, rest, hsegments, -⟩ := first_pathOf hplain hfirst
      cases hsegments
  | a :: b :: s :: segments, hplain, behind => by
    cases hfirst : usersRe.first ⟨behind, pathOf (a :: b :: s :: segments), []⟩ with
    | none =>
      have hmiss : ¬ (isLiteral (lit "v1") a = true ∧ isLiteral (lit "users") b = true ∧ s ≠ []) := by
        rintro ⟨ha, hb, hne⟩
        exact first_usersRe_ne_none rfl ha hb hne hplain.tail.tail.forall_head hfirst
      rw [subFrom_segment hplain hfirst, subFrom_pathOf hplain.tail, redactSegments, if_neg hmiss,
        pathOf_cons]
    | some m =>
      obtain ⟨_, _, _, hsegments, ha, hb, hne, hm, hget⟩ := first_pathOf hplain hfirst
      cases hsegments
      have hsplit : pathOf (a :: b :: s :: segments) =
          (47 :: (a ++ 47 :: (b ++ 47 :: s))) ++ pathOf segments := by
        simp only [pathOf_cons, List.cons_append, List.append_assoc]
      rw [hsplit] at hfirst ⊢
      rw [Re.subFrom_hit (List.cons_ne_nil _ _) hfirst hm, subFrom_pathOf hplain.tail.tail.tail,
        redactSegments, if_pos ⟨ha, hb, hne⟩, keepGroup, hget]
      simp only [pathOf_cons, List.cons_append, List.append_assoc, List.nil_append]

/-! ## What is marked -/

/-- How often `/v1/users` stands in a row, case ignored, at the end of a path; the last segment comes
first. -/
def usersRun : List Text → Nat
  | users :: v1 :: before =>
    if isLiteral (lit "users") users ∧ isLiteral (lit "v1") v1 then usersRun before + 1 else 0
  | _ => 0

/-- A mark for each non-empty segment behind an odd number of `/v1/users`. -/
def markSegments : List Text → List Text → List Text
  | _, [] => []
  | before, s :: segments =>
    (if usersRun before % 2 = 1 ∧ s ≠ [] then redactedMark else s) ::
      markSegments (s :: before) segments

theorem not_isLiteral_users {segment : Text} (h : isLiteral (lit "v1") segment = true) :
    ¬ isLiteral (lit "users") segment = true := by
  intro husers
  rw [isLiteral, beq_iff_eq] at h husers
  exact absurd (h.symm.trans husers) (by decide)

theorem usersRun_pair {users v1 : Text} {before : List Text}
    (husers : isLiteral (lit "users") users = true) (hv1 : isLiteral (lit "v1") v1 = true) :
    usersRun (users :: v1 :: before) = usersRun before + 1 :=
  if_pos ⟨husers, hv1⟩

theorem usersRun_other {s : Text} (h : ¬ isLiteral (lit "users") s = true) (before : List Text) :
    usersRun (s :: before) = 0 := by
  cases before with
  | nil => rfl
  | cons v1 before => exact if_neg fun hboth => h hboth.1

/-- Where the scan stands at a segment: it is not to be marked, and neither is the one that a
`/v1/users` begun would end before. -/
structure Resumes (before segments : List Text) : Prop where
  next : ∀ s rest, segments = s :: rest → usersRun before % 2 = 1 → s = []
  begun : ∀ v1 earlier users s rest, before = v1 :: earlier → segments = users :: s :: rest →
    isLiteral (lit "v1") v1 = true → isLiteral (lit "users") users = true →
      usersRun earlier % 2 = 0 → s = []

section

variable {before segments : List Text} {a b s : Text}

theorem resumes_nil (segments : List Text) : Resumes [] segments where
  next _ _ _ hodd := by cases hodd
  begun _ _ _ _ _ hbefore := by cases hbefore

theorem Resumes.markSegments_cons (h : Resumes before (a :: segments)) :
    markSegments before (a :: segments) = a :: markSegments (a :: before) segments := by
  have hunmarked : ¬ (usersRun before % 2 = 1 ∧ a ≠ []) := by
    rintro ⟨hodd, hne⟩
    exact hne (h.next a segments rfl hodd)
  rw [markSegments, if_neg hunmarked]

/-- **The scan goes on behind a segment it keeps.** -/
theorem Resumes.keep (h : Resumes before (a :: segments))
    (hmiss : ∀ b s rest, segments = b :: s :: rest → isLiteral (lit "v1") a = true →
      isLiteral (lit "users") b = true → s = []) : Resumes (a :: before) segments where
  next s rest hsegments hodd := by
    by_cases ha : isLiteral (lit "users") a = true
    · cases before with
      | nil => cases hodd
      | cons v1 earlier =>
        by_cases hv1 : isLiteral (lit "v1") v1 = true
        · rw [usersRun_pair ha hv1] at hodd
          exact h.begun v1 earlier a s rest rfl (by rw [hsegments]) hv1 ha (by omega)
        · rw [usersRun, if_neg fun hboth => hv1 hboth.2] at hodd
          cases hodd
    · rw [usersRun_other ha] at hodd
      cases hodd
  begun v1 earlier users s rest hbefore hsegments hv1 husers _ := by
    cases hbefore
    exact hmiss users s rest hsegments hv1 husers

/-- What stands behind an even number of `/v1/users` is not marked, and what follows one more is. -/
theorem Resumes.even (h : Resumes before (a :: segments)) (ha : isLiteral (lit "v1") a = true) :
    usersRun before % 2 = 0 := by
  by_contra hodd
  have hnil : a = [] := h.next a segments rfl (by omega)
  subst hnil
  exact absurd ha (by decide)

/-- **The scan goes on behind a segment it marks.** -/
theorem Resumes.mark (h : Resumes before (a :: segments)) (ha : isLiteral (lit "v1") a = true)
    (hb : isLiteral (lit "users") b = true) (rest : List Text) :
    Resumes (s :: b :: a :: before) rest where
  next t later _ hodd := by
    have hv1 : ¬ isLiteral (lit "v1") b = true := fun hv1 => not_isLiteral_users hv1 hb
    rw [usersRun, if_neg fun hboth => hv1 hboth.2] at hodd
    cases hodd
  begun v1 earlier users t later hbefore _ _ _ heven := by
    cases hbefore
    have := h.even ha
    rw [usersRun_pair hb ha] at heven
    omega

end

theorem redactSegments_eq : ∀ {before segments : List Text}, Resumes before segments →
    redactSegments segments = markSegments before segments
  | _, [], _ => rfl
  | before, [a], h => by
    rw [h.markSegments_cons]
    rfl
  | before, [a, b], h => by
    have hkeep : Resumes (a :: before) [b] := h.keep fun _ _ _ hsegments => by cases hsegments
    rw [h.markSegments_cons, hkeep.markSegments_cons]
    rfl
  | before, a :: b :: s :: segments, h => by
    rw [redactSegments, h.markSegments_cons]
    by_cases hhit : isLiteral (lit "v1") a = true ∧ isLiteral (lit "users") b = true ∧ s ≠ []
    · obtain ⟨ha, hb, hne⟩ := hhit
      have hkept : ¬ (usersRun (a :: before) % 2 = 1 ∧ b ≠ []) := by
        rw [usersRun_other (not_isLiteral_users ha)]
        rintro ⟨hodd, -⟩
        cases hodd
      have hodd : usersRun (b :: a :: before) % 2 = 1 := by
        have := h.even ha
        rw [usersRun_pair hb ha]
        omega
      have hrest : redactSegments segments = markSegments (s :: b :: a :: before) segments :=
        redactSegments_eq (h.mark ha hb segments)
      rw [if_pos ⟨ha, hb, hne⟩, markSegments, if_neg hkept, markSegments, if_pos ⟨hodd, hne⟩, hrest]
    · rw [if_neg hhit, redactSegments_eq]
      refine h.keep ?_
      rintro _ _ _ hsegments ha hb
      cases hsegments
      by_contra hne
      exact hhit ⟨ha, hb, hne⟩

/-- **The pattern marks a non-empty segment behind an odd number of `/v1/users`**, and nothing
else. -/
theorem sub_usersRe {segments : List Text} (h : Plain segments) :
    usersRe.sub keepGroup (pathOf segments) = pathOf (markSegments [] segments) := by
  rw [Re.sub_eq_subFrom, subFrom_pathOf h, redactSegments_eq (resumes_nil segments)]

theorem not_mem_markSegments : ∀ {before segments : List Text}, (∀ s ∈ segments, 47 ∉ s) →
    ∀ s ∈ markSegments before segments, 47 ∉ s
  | _, [], _, _, hs => absurd hs List.not_mem_nil
  | before, t :: segments, h, s, hs => by
    rcases List.mem_cons.mp hs with rfl | hs
    · split_ifs
      · decide
      · exact h t List.mem_cons_self
    · exact not_mem_markSegments (fun s hs => h s (List.mem_cons_of_mem t hs)) s hs

/-! ## Paths with other users -/

/-- A path ends in `/v1/users`; the last segment comes first. -/
def FollowsUsers (before : List Text) : Prop := ∃ earlier, before = lit "users" :: lit "v1" :: earlier

/-- Equal but for non-empty segments that directly follow `/v1/users/` in both, behind the given
prefixes. -/
inductive LowEqSegments : List Text → List Text → List Text → List Text → Prop
  | nil (before before' : List Text) : LowEqSegments before before' [] []
  | same {before before' segments segments' : List Text} (s : Text)
      (h : LowEqSegments (s :: before) (s :: before') segments segments') :
      LowEqSegments before before' (s :: segments) (s :: segments')
  | user {before before' segments segments' : List Text} {s s' : Text}
      (hbefore : FollowsUsers before) (hbefore' : FollowsUsers before') (hs : s ≠ []) (hs' : s' ≠ [])
      (h : LowEqSegments (s :: before) (s' :: before') segments segments') :
      LowEqSegments before before' (s :: segments) (s' :: segments')

/-- Every segment that differs stands behind an odd number of `/v1/users`. -/
def BehindOdd (before segments segments' : List Text) : Prop :=
  ∀ i : Nat, segments[i]? ≠ segments'[i]? → usersRun ((segments.take i).reverse ++ before) % 2 = 1

theorem behindOdd_nil (before : List Text) : BehindOdd before [] [] := fun _ h => absurd rfl h

theorem behindOdd_cons {before segments segments' : List Text} {s s' : Text} :
    BehindOdd before (s :: segments) (s' :: segments') ↔
      (s ≠ s' → usersRun before % 2 = 1) ∧ BehindOdd (s :: before) segments segments' := by
  constructor
  · intro h
    refine ⟨fun hne => h 0 fun heq => hne (Option.some.inj heq), fun i hi => ?_⟩
    have := h (i + 1) hi
    rwa [List.take_succ_cons, List.reverse_cons, List.append_assoc] at this
  · rintro ⟨hhead, htail⟩ i hi
    cases i with
    | zero => exact hhead fun heq => hi (congrArg some heq)
    | succ i =>
      rw [List.take_succ_cons, List.reverse_cons, List.append_assoc]
      exact htail i hi

/-- Prefixes that differ behind odd numbers alone. -/
inductive Agree : List Text → List Text → Prop
  | nil : Agree [] []
  | same (s : Text) {before before' : List Text} (h : Agree before before') :
      Agree (s :: before) (s :: before')
  | user (s s' : Text) {before before' : List Text} (hbefore : FollowsUsers before)
      (hbefore' : FollowsUsers before') (hodd : usersRun before % 2 = 1) (h : Agree before before') :
      Agree (s :: before) (s' :: before')

theorem FollowsUsers.usersRun_cons {before : List Text} (h : FollowsUsers before) (s : Text) :
    usersRun (s :: before) = 0 := by
  obtain ⟨earlier, rfl⟩ := h
  exact if_neg fun hboth => absurd hboth.2 (by decide)

/-- A segment that was replaced, and one more: no run of odd length ends there. -/
theorem usersRun_even {before : List Text} (h : usersRun before % 2 = 1) (s a : Text) :
    usersRun (s :: a :: before) % 2 = 0 := by
  rw [usersRun]
  split_ifs
  · omega
  · rfl

/-- **Such prefixes are alike to the pattern.** -/
theorem Agree.parity : ∀ {before before' : List Text}, Agree before before' →
    usersRun before % 2 = usersRun before' % 2
  | _, _, .nil => rfl
  | _, _, .same _ .nil => rfl
  | _, _, .same s (.same a h) => by
    have := h.parity
    rw [usersRun, usersRun]
    split_ifs
    · omega
    · rfl
  | _, _, .same s (.user a a' _ _ hodd h) => by
    rw [usersRun_even hodd, usersRun_even (h.parity ▸ hodd)]
  | _, _, .user s s' hbefore hbefore' _ _ => by
    rw [hbefore.usersRun_cons, hbefore'.usersRun_cons]

/-- **Two paths with other users have one redacted path** iff every user that differs stands behind
an odd number of `/v1/users`. -/
theorem markSegments_eq_iff {before before' segments segments' : List Text}
    (h : LowEqSegments before before' segments segments') (hagree : Agree before before') :
    markSegments before segments = markSegments before' segments' ↔
      BehindOdd before segments segments' := by
  induction h with
  | nil before before' => exact iff_of_true rfl (behindOdd_nil before)
  | same s h ih =>
    rw [markSegments, markSegments, hagree.parity, List.cons.injEq, behindOdd_cons,
      ih (hagree.same s), and_iff_right rfl, and_iff_right fun hne => absurd rfl hne]
  | @user before before' segments segments' s s' hbefore hbefore' hs hs' h ih =>
    rw [markSegments, markSegments, ← hagree.parity, List.cons.injEq, behindOdd_cons]
    by_cases hodd : usersRun before % 2 = 1
    · rw [if_pos ⟨hodd, hs⟩, if_pos ⟨hodd, hs'⟩, ih (hagree.user s s' hbefore hbefore' hodd),
        and_iff_right rfl, and_iff_right fun _ => hodd]
    · rw [if_neg fun hboth => hodd hboth.1, if_neg fun hboth => hodd hboth.1]
      by_cases hsame : s = s'
      · subst hsame
        rw [ih (hagree.same s), and_iff_right rfl, and_iff_right fun hne => absurd rfl hne]
      · exact iff_of_false (fun hboth => hsame hboth.1) fun hboth => hodd (hboth.1 hsame)

/-! ## Queries with other values -/

/-- Equal but for the value, if the decoded name of the item is sensitive. -/
inductive LowEqItem (unicode : Unicode) : Text → Text → Prop
  | same (item : Text) : LowEqItem unicode item item
  | secret {item item' : Text} (hne : item ≠ []) (hne' : item' ≠ [])
      (hname : itemName item = itemName item')
      (hsensitive : isSensitiveName unicode (readItem item).1 = true) : LowEqItem unicode item item'

/-- Equal but for the values of sensitive parameters. -/
def LowEqQuery (unicode : Unicode) (query query' : Text) : Prop :=
  List.Forall₂ (LowEqItem unicode) (query.splitOn 38) (query'.splitOn 38)

section

variable {unicode : Unicode}

/-- What is encoded of an item. -/
def redactedItem (unicode : Unicode) (item : Text) : Text × Text :=
  ((readItem item).1,
    if isSensitiveName unicode (readItem item).1 then redactedMark else (readItem item).2)

theorem redactedPairs_eq (query : Text) : redactedPairs unicode query =
    ((query.splitOn 38).filter fun item => !item.isEmpty).map (redactedItem unicode) := by
  rw [redactedPairs, parseQsl, List.map_map]
  rfl

theorem LowEqItem.isEmpty_eq {item item' : Text} (h : LowEqItem unicode item item') :
    item.isEmpty = item'.isEmpty := by
  cases h with
  | same => rfl
  | secret hne hne' =>
    rw [List.isEmpty_eq_false_iff.mpr hne, List.isEmpty_eq_false_iff.mpr hne']

theorem LowEqItem.redactedItem_eq {item item' : Text} (h : LowEqItem unicode item item') :
    redactedItem unicode item = redactedItem unicode item' := by
  cases h with
  | same => rfl
  | secret _ _ hname hsensitive =>
    have hread : (readItem item').1 = (readItem item).1 := by
      rw [readItem, readItem, hname]
    rw [redactedItem, redactedItem, hread, if_pos hsensitive, if_pos hsensitive]

/-- **The pairs that are encoded do not depend on the sensitive values.** -/
theorem redactedPairs_congr {query query' : Text} (h : LowEqQuery unicode query query') :
    redactedPairs unicode query = redactedPairs unicode query' := by
  rw [redactedPairs_eq, redactedPairs_eq]
  unfold LowEqQuery at h
  generalize query.splitOn 38 = items at h
  generalize query'.splitOn 38 = items' at h
  induction h with
  | nil => rfl
  | cons hitem _ ih =>
    rw [List.filter_cons, List.filter_cons, hitem.isEmpty_eq]
    split_ifs
    · rw [List.map_cons, List.map_cons, hitem.redactedItem_eq, ih]
    · exact ih

end

/-! ## URLs with other users and other values -/

/-- Equal but for users and for the values of sensitive parameters. -/
structure LowEqUrl (unicode : Unicode) (u u' : AbsoluteUrl) : Prop where
  scheme : u.scheme = u'.scheme
  netloc : u.netloc = u'.netloc
  segments : LowEqSegments [] [] u.segments u'.segments
  query : Option.Rel (LowEqQuery unicode) u.query u'.query
  fragment : u.fragment = u'.fragment

section

variable {checks : NetlocChecks} {unicode : Unicode} {u u' : AbsoluteUrl}

/-- The pairs that are encoded, of a query that may be left out. -/
theorem redactedPairs_getD (h : Option.Rel (LowEqQuery unicode) u.query u'.query) :
    redactedPairs unicode (u.query.getD []) = redactedPairs unicode (u'.query.getD []) := by
  generalize u.query = query at h
  generalize u'.query = query' at h
  cases h with
  | some h => exact redactedPairs_congr h
  | none => rfl

/-- The URL that is put together of an absolute one. -/
theorem rebuiltUrl_of_ok (hu : u.WellFormed) (hsplit : urlsplit checks u.text = .ok u.parts)
    {query : Text} (hquery : urlencode (redactedPairs unicode (u.query.getD [])) = some query) :
    rebuiltUrl checks unicode u.text = .ok (urlunsplit ⟨u.scheme.map lowerAscii, u.netloc,
      pathOf (markSegments [] u.segments), query, u.fragment.getD []⟩) := by
  have hpath : usersRe.sub keepGroup u.parts.path = pathOf (markSegments [] u.segments) :=
    sub_usersRe hu.segments
  have hencoded : urlencode (redactedPairs unicode u.parts.query) = some query := hquery
  unfold rebuiltUrl
  rw [hsplit]
  simp only [hencoded, hpath]
  rfl

/-- **Two such URLs** are refused alike, or put together with one scheme, network location, query and
fragment and their own redacted paths. -/
theorem rebuiltUrl_cases (checks : NetlocChecks) (hu : u.WellFormed) (hu' : u'.WellFormed)
    (h : LowEqUrl unicode u u') :
    (∃ e, rebuiltUrl checks unicode u.text = .error e ∧
      rebuiltUrl checks unicode u'.text = .error e) ∨
    ∃ parts : SplitResult, parts.netloc ≠ [] ∧
      rebuiltUrl checks unicode u.text =
        .ok (urlunsplit { parts with path := pathOf (markSegments [] u.segments) }) ∧
      rebuiltUrl checks unicode u'.text =
        .ok (urlunsplit { parts with path := pathOf (markSegments [] u'.segments) }) := by
  have hpairs := redactedPairs_getD h.query
  rcases hu.urlsplit_text checks with ⟨message, hnetloc, hsplit⟩ | ⟨hnetloc, hsplit⟩
  · rcases hu'.urlsplit_text checks with ⟨message', hnetloc', hsplit'⟩ | ⟨hnetloc', -⟩
    · rw [← h.netloc, hnetloc, Option.some.injEq] at hnetloc'
      subst hnetloc'
      refine .inl ⟨.valueError message, ?_, ?_⟩
      · rw [rebuiltUrl, hsplit]
      · rw [rebuiltUrl, hsplit']
    · rw [← h.netloc, hnetloc] at hnetloc'
      cases hnetloc'
  · rcases hu'.urlsplit_text checks with ⟨message', hnetloc', -⟩ | ⟨-, hsplit'⟩
    · rw [← h.netloc, hnetloc] at hnetloc'
      cases hnetloc'
    · cases hquery : urlencode (redactedPairs unicode (u.query.getD [])) with
      | none =>
        have hquery' : urlencode (redactedPairs unicode u'.parts.query) = none := hpairs ▸ hquery
        have hquery : urlencode (redactedPairs unicode u.parts.query) = none := hquery
        refine .inl ⟨.unicodeEncodeError, ?_, ?_⟩
        · simp only [rebuiltUrl, hsplit, hquery]
        · simp only [rebuiltUrl, hsplit', hquery']
      | some query =>
        refine .inr ⟨⟨u.scheme.map lowerAscii, u.netloc, [], query, u.fragment.getD []⟩,
          hu.netloc_ne_nil, rebuiltUrl_of_ok hu hsplit hquery, ?_⟩
        rw [rebuiltUrl_of_ok hu' hsplit' (hpairs ▸ hquery), h.scheme, h.netloc, h.fragment]

/-- **What is logged of a URL does not depend on the secrets in it, as far as the pattern finds
them.** Take two absolute URLs that differ in the values of sensitive parameters and in segments that
directly follow `/v1/users/`. If every segment that differs stands behind an odd number of
`/v1/users` in a row, they are logged alike; and only then are they put together alike, in front of
the redaction of free text. -/
theorem redactUrl_noninterference (hu : u.WellFormed) (hu' : u'.WellFormed)
    (h : LowEqUrl unicode u u') :
    (BehindOdd [] u.segments u'.segments →
      redactUrl checks unicode u.text = redactUrl checks unicode u'.text) ∧
    ∀ t, rebuiltUrl checks unicode u.text = .ok t →
      (rebuiltUrl checks unicode u'.text = .ok t ↔ BehindOdd [] u.segments u'.segments) := by
  have hmark := markSegments_eq_iff h.segments .nil
  have hplain : Plain u.segments := hu.segments
  have hplain' : Plain u'.segments := hu'.segments
  rcases rebuiltUrl_cases checks hu hu' h with ⟨e, he, he'⟩ | ⟨parts, hnetloc, hok, hok'⟩
  · refine ⟨fun _ => ?_, fun t ht => ?_⟩
    · rw [redactUrl, redactUrl, he, he']
    · rw [he] at ht
      cases ht
  · refine ⟨fun hodd => ?_, fun t ht => ?_⟩
    · rw [redactUrl, redactUrl, hok, hok', hmark.mpr hodd]
    · rw [hok, Except.ok.injEq] at ht
      rw [hok', Except.ok.injEq, ← ht, ← hmark]
      constructor
      · intro heq
        have hpath := urlunsplit_inj hnetloc heq
        exact (pathOf_inj (not_mem_markSegments fun s hs => hplain'.not_mem hs)
          (not_mem_markSegments fun s hs => hplain.not_mem hs) hpath).symm
      · intro heq
        rw [heq]

end

/-! ## Two users -/

/-- `https://a/v1/users/{user}?code={code}`. -/
def userUrl (user code : Text) : AbsoluteUrl :=
  ⟨lit "https", lit "a", [lit "v1", lit "users", user], some (lit "code=" ++ code), none⟩

/-- Two users behind one `/v1/users`. -/
theorem redactUrl_noninterference_example :
    (BehindOdd [] (userUrl (lit "alice") []).segments (userUrl (lit "bob") (lit "%3D")).segments →
      redactUrl ⟨fun _ => none, fun _ => none⟩ .ascii (userUrl (lit "alice") []).text =
        redactUrl ⟨fun _ => none, fun _ => none⟩ .ascii (userUrl (lit "bob") (lit "%3D")).text) ∧
    ∀ t, rebuiltUrl ⟨fun _ => none, fun _ => none⟩ .ascii (userUrl (lit "alice") []).text = .ok t →
      (rebuiltUrl ⟨fun _ => none, fun _ => none⟩ .ascii (userUrl (lit "bob") (lit "%3D")).text =
          .ok t ↔
        BehindOdd [] (userUrl (lit "alice") []).segments
          (userUrl (lit "bob") (lit "%3D")).segments) := by
  have hquery : LowEqQuery .ascii (lit "code=") (lit "code=%3D") :=
    .cons (.secret (by decide) (by decide) (by decide) (by decide +kernel)) .nil
  have hsegments : LowEqSegments [] [] [lit "v1", lit "users", lit "alice"]
      [lit "v1", lit "users", lit "bob"] :=
    .same _ (.same _ (.user ⟨[], rfl⟩ ⟨[], rfl⟩ (by decide) (by decide) (.nil _ _)))
  have hletter : ∃ c ∈ (lit "https").head?, isAsciiLetter c = true := ⟨104, rfl, rfl⟩
  refine redactUrl_noninterference ⟨hletter, ?_, ?_, ?_, ?_, ?_, ?_⟩ ⟨hletter, ?_, ?_, ?_, ?_, ?_, ?_⟩
    ⟨rfl, rfl, hsegments, .some hquery, rfl⟩ <;> decide

/-- `https://a/v1/users/v1/users/{user}`. -/
def nestedUrl (user : Text) : AbsoluteUrl :=
  ⟨lit "https", lit "a", [lit "v1", lit "users", lit "v1", lit "users", user], none, none⟩

/-- **Behind two, the user is logged**: the pattern takes the second `v1` for the user and goes on
behind it. -/
theorem nestedUser_example :
    (nestedUrl (lit "alice")).WellFormed ∧ (nestedUrl (lit "bob")).WellFormed ∧
      LowEqUrl .ascii (nestedUrl (lit "alice")) (nestedUrl (lit "bob")) ∧
      redactUrl ⟨fun _ => none, fun _ => none⟩ .ascii (nestedUrl (lit "alice")).text =
        .ok (lit "https://a/v1/users/[REDACTED]/users/alice") ∧
      redactUrl ⟨fun _ => none, fun _ => none⟩ .ascii (nestedUrl (lit "bob")).text =
        .ok (lit "https://a/v1/users/[REDACTED]/users/bob") ∧
      redactUrl ⟨fun _ => none, fun _ => none⟩ .ascii (nestedUrl (lit "alice")).text ≠
        redactUrl ⟨fun _ => none, fun _ => none⟩ .ascii (nestedUrl (lit "bob")).text := by
  have hsegments : LowEqSegments [] [] (nestedUrl (lit "alice")).segments
      (nestedUrl (lit "bob")).segments :=
    .same _ (.same _ (.same _ (.same _ (.user ⟨_, rfl⟩ ⟨_, rfl⟩ (by decide) (by decide) (.nil _ _)))))
  have hletter : ∃ c ∈ (lit "https").head?, isAsciiLetter c = true := ⟨104, rfl, rfl⟩
  refine ⟨⟨hletter, ?_, ?_, ?_, ?_, ?_, ?_⟩, ⟨hletter, ?_, ?_, ?_, ?_, ?_, ?_⟩,
    ⟨rfl, rfl, hsegments, .none, rfl⟩, ?_, ?_, ?_⟩
  all_goals decide +kernel

end ApiTests.Logging
