import ApiTests.Evidence.Assignment

/-!
# Credentials in diagnostics (`dependency_evidence.py:107-111`)

What `redact_text` leaves of a credential that stands in a text between white space. The first two
substitutions work on each side of white space; the last one does so unless the text before ends in an
open assignment (`Waits`).

Results:
* `redactText_header`, `redactText_assigned`, …: what becomes of each form.
* **`independent_iff`**: exactly which credentials leave no trace.
-/

namespace ApiTests.Evidence

open Py Re

variable {unicode : Unicode}

/-! ## URLs -/

/-- The first substitution, from a position on. -/
def redactUserinfo (behind t : Text) : Text :=
  subFrom urlUserinfoRe (fun m => m.get 1 ++ redactedMark ++ lit "@") behind t

/-- `http` or `https` in any case. -/
def IsScheme (scheme : Text) : Prop := scheme.map foldCase ∈ [lit "http", lit "https"]

theorem IsScheme.forall_mem {scheme : Text} (h : IsScheme scheme) :
    ∀ c ∈ scheme, foldCase c ∈ lit "https" := by
  intro c hc
  have hall : ∀ w ∈ [lit "http", lit "https"], ∀ d ∈ w, d ∈ lit "https" := by decide
  exact hall _ h _ (List.mem_map_of_mem hc)

/-- What the pattern reads at the start of a text. -/
structure Userinfo (t scheme user password rest : Text) : Prop where
  text : t = scheme ++ lit "://" ++ (user ++ 58 :: (password ++ 64 :: rest))
  scheme : IsScheme scheme
  user : user ≠ [] ∧ ∀ c ∈ user, isUserChar c = true
  password : password ≠ [] ∧ ∀ c ∈ password, isUserinfoChar c = true

variable {x y : Cursor}

theorem mem_run_scheme :
    y ∈ run (.seqs [.strI (lit "http"), .opt (.strI (lit "s")), .str (lit "://")]) x ↔
      ∃ scheme v, x.ahead = scheme ++ lit "://" ++ v ∧ IsScheme scheme ∧
      y = x.after (scheme ++ lit "://") v := by
  have hhttp : (lit "http").map foldCase = lit "http" := by decide
  have hs : (lit "s").map foldCase = lit "s" := by decide
  constructor
  · intro h
    obtain ⟨z, hz, h⟩ := mem_run_seq.mp h
    obtain ⟨w, hw, hy⟩ := mem_run_seq.mp h
    obtain ⟨u, v, hx, hu, rfl⟩ := mem_run_strI hz
    obtain ⟨v', hv', rfl⟩ := mem_run_str.mp hy
    rw [hhttp] at hu
    rcases mem_run_opt.mp hw with hw | rfl
    · obtain ⟨u', v'', hv, hu', rfl⟩ := mem_run_strI hw
      rw [hs] at hu'
      rw [Cursor.after_ahead] at hv hv'
      refine ⟨u ++ u', v', by rw [hx, hv, hv']; simp, ?_, by simp [Cursor.after]⟩
      rw [IsScheme, List.map_append, hu, hu']
      decide
    · rw [Cursor.after_ahead] at hv'
      refine ⟨u, v', by rw [hx, hv']; simp, ?_, by simp [Cursor.after]⟩
      rw [IsScheme, hu]
      decide
  · rintro ⟨scheme, v, hx, hscheme, rfl⟩
    have hsplit : ∃ u u', scheme = u ++ u' ∧ u.map foldCase = lit "http" ∧
        (u' = [] ∨ u'.map foldCase = lit "s") := by
      unfold IsScheme at hscheme
      rw [List.mem_cons, List.mem_singleton] at hscheme
      rcases hscheme with hscheme | hscheme
      · exact ⟨scheme, [], (List.append_nil _).symm, hscheme, Or.inl rfl⟩
      · have hcut : scheme.map foldCase = lit "http" ++ lit "s" := hscheme
        obtain ⟨u, u', rfl, hu, hu'⟩ := List.map_eq_append_iff.mp hcut
        exact ⟨u, u', rfl, hu, Or.inr hu'⟩
    obtain ⟨u, u', rfl, hu, hu'⟩ := hsplit
    rw [List.append_assoc, List.append_assoc] at hx
    refine mem_run_seq.mpr ⟨x.after u (u' ++ (lit "://" ++ v)),
      mem_run_strI_iff.mpr ⟨u, _, hx, by rw [hu, hhttp], rfl⟩,
      mem_run_seq.mpr ⟨(x.after u (u' ++ (lit "://" ++ v))).after u' (lit "://" ++ v), ?_,
        mem_run_str.mpr ⟨v, rfl, by simp [Cursor.after]⟩⟩⟩
    rw [mem_run_opt]
    rcases hu' with rfl | hu'
    · exact Or.inr rfl
    · exact Or.inl (mem_run_strI_iff.mpr ⟨u', _, rfl, by rw [hu', hs], rfl⟩)

/-- **What the pattern matches.** -/
theorem userinfo_of_mem (h : y ∈ run urlUserinfoRe x) : ∃ scheme user password rest,
    Userinfo x.ahead scheme user password rest ∧ y.ahead = rest ∧
      y.groups = (1, scheme ++ lit "://") :: x.groups := by
  obtain ⟨z, hz, h⟩ := mem_run_seq.mp h
  obtain ⟨w, hw, u, hu, rfl⟩ := mem_run_group.mp hz
  obtain ⟨scheme, v, hx, hscheme, rfl⟩ := mem_run_scheme.mp hw
  obtain rfl : scheme ++ lit "://" = u := List.append_cancel_right (hx.symm.trans hu)
  obtain ⟨z, hz, h⟩ := mem_run_seq.mp h
  obtain ⟨user, v1, h1, huser, hlen, rfl⟩ := mem_run_rep.mp hz
  obtain ⟨z, hz, h⟩ := mem_run_seq.mp h
  obtain ⟨v2, h2, rfl⟩ := mem_run_str.mp hz
  obtain ⟨z, hz, h⟩ := mem_run_seq.mp h
  obtain ⟨password, v3, h3, hpassword, hlen', rfl⟩ := mem_run_rep.mp hz
  obtain ⟨v4, h4, rfl⟩ := mem_run_str.mp h
  simp only [Cursor.after_ahead] at h1 h2 h3 h4
  refine ⟨scheme, user, password, v4, ⟨?_, hscheme, ⟨?_, huser⟩, ?_, hpassword⟩, rfl, rfl⟩
  · rw [hx, h1, h2, h3, h4]
    rfl
  · exact List.length_pos_iff.mp hlen
  · exact List.length_pos_iff.mp hlen'

theorem exists_mem_run_userinfo {scheme user password rest : Text}
    (h : Userinfo x.ahead scheme user password rest) : ∃ y, y ∈ run urlUserinfoRe x := by
  refine ⟨_, mem_run_seq.mpr ⟨_, mem_run_group.mpr ⟨_, mem_run_scheme.mpr ⟨scheme, _, h.text, h.scheme,
    rfl⟩, _, h.text, rfl⟩, mem_run_seq.mpr ⟨_, mem_run_rep.mpr ⟨user, _, rfl, h.user.2, ?_, rfl⟩,
    mem_run_seq.mpr ⟨_, mem_run_str.mpr ⟨_, rfl, rfl⟩, mem_run_seq.mpr ⟨_,
      mem_run_rep.mpr ⟨password, _, rfl, h.password.2, ?_, rfl⟩, mem_run_str.mpr ⟨rest, rfl, rfl⟩⟩⟩⟩⟩⟩
  · exact List.length_pos_iff.mpr h.user.1
  · exact List.length_pos_iff.mpr h.password.1

theorem IsScheme.ne_colon {scheme : Text} (h : IsScheme scheme) :
    ∀ c ∈ scheme, (c != 58) = true := by
  intro c hc
  have := h.forall_mem c hc
  rw [bne_iff_ne]
  rintro rfl
  exact absurd this (by decide)

/-- **A URL is read in one way.** -/
theorem Userinfo.unique {t s u p r s' u' p' r' : Text} (h : Userinfo t s u p r)
    (h' : Userinfo t s' u' p' r') : s = s' ∧ u = u' ∧ p = p' ∧ r = r' := by
  have htext := h.text.symm.trans h'.text
  rw [List.append_assoc, List.append_assoc] at htext
  obtain ⟨rfl, htail⟩ := append_inj_of_stop h.scheme.ne_colon rfl h'.scheme.ne_colon rfl htext
  obtain ⟨rfl, hpassword⟩ := append_inj_of_stop h.user.2 rfl h'.user.2 rfl
    (List.append_cancel_left htail)
  obtain ⟨rfl, hrest⟩ := append_inj_of_stop h.password.2 rfl h'.password.2 rfl
    (List.cons.inj hpassword).2
  exact ⟨rfl, rfl, rfl, (List.cons.inj hrest).2⟩

theorem consumes_urlUserinfoRe : Consumes urlUserinfoRe :=
  Consumes.seq_right (Consumes.seq_left (consumes_rep Nat.one_ne_zero))

theorem local_urlUserinfoRe : urlUserinfoRe.Local isSpace := by
  have hfold : ∀ w : Text, (∀ c ∈ w, isSpace (foldCase c) = false) →
      ∀ d, isSpace d = true → ∀ c ∈ w, foldCase d ≠ foldCase c := by
    intro w hw d hd c hc heq
    have := hw c hc
    rw [← heq, foldCase_of_isSpace hd, hd] at this
    cases this
  refine ⟨⟨local_strI (hfold _ (by decide)), local_strI (hfold _ (by decide)), local_str (by decide)⟩,
    fun c hc => ?_, local_str (by decide), fun c hc => ?_, local_str (by decide)⟩
  · simp [isUserChar, hc]
  · simp [isUserinfoChar, hc]

theorem fromGroups_userinfo : FromGroups fun m => m.get 1 ++ redactedMark ++ lit "@" := by
  intro m m' h
  simp only [Cursor.get, h]

/-- What stands before a URL's host makes no difference behind it. -/
theorem redactUserinfo_behind (behind t : Text) :
    redactUserinfo (64 :: behind) t = redactUserinfo [64] t :=
  subFrom_like local_urlUserinfoRe consumes_urlUserinfoRe fromGroups_userinfo fun _ _ => rfl

theorem redactUserinfo_eq_self {t : Text} (h : 47 ∉ t) : redactUserinfo [] t = t := by
  refine sub_eq_self fun u c v ht => ?_
  cases hf : first urlUserinfoRe ⟨u.reverse, c :: v, []⟩ with
  | none => rfl
  | some m =>
    obtain ⟨scheme, user, password, rest, hread, -, -⟩ := userinfo_of_mem (first_mem hf)
    have htext : c :: v = _ := hread.text
    refine absurd ?_ h
    rw [ht, htext]
    simp [lit]

/-- **The userinfo of a URL is replaced** as a whole. -/
theorem redactUserinfo_url {t scheme user password rest : Text}
    (h : Userinfo t scheme user password rest) :
    redactUserinfo [] t =
      scheme ++ lit "://" ++ redactedMark ++ lit "@" ++ redactUserinfo [64] rest := by
  obtain ⟨y, hy⟩ := exists_mem_run_userinfo (x := ⟨[], t, []⟩) h
  cases hf : first urlUserinfoRe ⟨[], t, []⟩ with
  | none => exact absurd hy (first_eq_none_iff.mp hf y)
  | some m =>
    obtain ⟨scheme', user', password', rest', h', hrest, hgroups⟩ := userinfo_of_mem (first_mem hf)
    obtain ⟨rfl, rfl, rfl, rfl⟩ := h.unique h'
    have hne : scheme ++ lit "://" ++ user ++ [58] ++ password ++ [64] ≠ [] := by simp
    have htext : t = scheme ++ lit "://" ++ user ++ [58] ++ password ++ [64] ++ rest := by
      rw [h.text]
      simp
    have hget : m.get 1 = scheme ++ lit "://" := by
      rw [Cursor.get, hgroups]
      rfl
    rw [htext] at hf ⊢
    unfold redactUserinfo
    rw [subFrom_hit hne hf hrest, hget]
    congr 1
    rw [List.reverse_append, List.reverse_singleton, List.append_assoc]
    exact redactUserinfo_behind _ rest

/-- A URL without a password is left as it is. -/
theorem redactUserinfo_keep {scheme user rest : Text} (hscheme : IsScheme scheme)
    (huser : 58 ∉ user) :
    redactUserinfo [] (scheme ++ lit "://" ++ user ++ 64 :: rest) =
      scheme ++ lit "://" ++ user ++ 64 :: redactUserinfo [64] rest := by
  have hcolon : (scheme ++ lit "://" ++ user).count 58 = 1 := by
    have hs : scheme.count 58 = 0 := List.count_eq_zero.mpr fun hmem =>
      absurd (hscheme.ne_colon 58 hmem) (by decide)
    have hu : user.count 58 = 0 := List.count_eq_zero.mpr huser
    have hsign : (lit "://").count 58 = 1 := by decide
    rw [List.count_append, List.count_append, hs, hu, hsign]
  have hkeep : redactUserinfo [] ((scheme ++ lit "://" ++ user ++ [64]) ++ rest) =
      (scheme ++ lit "://" ++ user ++ [64]) ++
        redactUserinfo ((scheme ++ lit "://" ++ user ++ [64]).reverse ++ []) rest := by
    refine subFrom_keep fun u₁ c u₂ hu => ?_
    cases hf : first urlUserinfoRe ⟨u₁.reverse ++ [], c :: (u₂ ++ rest), []⟩ with
    | none => rfl
    | some m =>
      -- a match has a second `:` before its `@`
      obtain ⟨scheme', user', password, rest', h, -, -⟩ := userinfo_of_mem (first_mem hf)
      have htext : (c :: u₂) ++ rest =
          (scheme' ++ lit "://" ++ user' ++ [58]) ++ (password ++ 64 :: rest') := by
        rw [show c :: u₂ ++ rest = _ from h.text]
        simp
      have hlast : 64 ∈ c :: u₂ := by
        have := congrArg List.getLast? hu
        rw [List.getLast?_concat, List.getLast?_append_cons] at this
        exact List.mem_of_getLast? this.symm
      rcases cut_or htext with ⟨q, hq, -⟩ | ⟨d, z, hz, -⟩
      · have hle : (c :: u₂).count 58 ≤ 1 := by
          have := congrArg (List.count 58) hu
          rw [List.count_append, hcolon, List.count_append] at this
          have hsingle : ([64] : Text).count 58 = 0 := by decide
          omega
        rw [hq, List.count_append, List.count_append, List.count_append, List.count_append] at hle
        have hsign : (lit "://").count 58 = 1 := by decide
        have hsingle : ([58] : Text).count 58 = 1 := by decide
        omega
      · have hmem : 64 ∈ scheme' ++ lit "://" ++ user' ++ [58] :=
          hz ▸ List.mem_append_left _ hlast
        simp only [List.mem_append, List.mem_singleton] at hmem
        rcases hmem with ((hmem | hmem) | hmem) | hmem
        · exact absurd (h.scheme.forall_mem 64 hmem) (by decide)
        · exact absurd hmem (by decide)
        · exact absurd (h.user.2 64 hmem) (by decide)
        · exact absurd hmem (by decide)
  rw [List.append_assoc (scheme ++ lit "://" ++ user), List.singleton_append] at hkeep
  rw [hkeep, List.append_assoc _ [64], List.singleton_append, List.append_nil, List.reverse_append,
    List.reverse_singleton, List.singleton_append, redactUserinfo_behind]

/-! ## Tokens -/

variable (unicode)

/-- The second substitution. -/
def redactTokens (t : Text) : Text := (knownTokenRe unicode).sub (fun _ => redactedMark) t

/-- No character of a word for either pattern of the second substitution. -/
def isGap (c : Nat) : Bool := !(unicode.isWord c || isWordAscii c)

variable {unicode} {t : Text}

theorem isGap_of_isSpace {c : Nat} (h : isSpace c = true) : isGap unicode c = true := by
  have hword := unicode.isWord_space c h
  have hascii := Unicode.ascii.isWord_space c h
  rw [isGap, hword, show isWordAscii c = false from hascii]
  rfl

theorem isGap_ascii {c : Nat} (h : c < 128) (hword : isWordAscii c = false) :
    isGap unicode c = true := by
  rw [isGap, unicode.isWord_ascii c h, hword]
  rfl

theorem isGap_of_isWordAscii {c : Nat} (h : isWordAscii c = true) : isGap unicode c = false := by
  simp [isGap, h]

theorem consumes_knownTokenRe : Consumes (knownTokenRe unicode) := by
  refine Consumes.seq_right (Consumes.seq_left ?_)
  intro x y hy
  rcases mem_run_alt.mp hy with hy | hy
  · exact consumes_str.seq_left x y hy
  · exact consumes_str.seq_left x y hy

theorem local_knownTokenRe : (knownTokenRe unicode).Local (isGap unicode) := by
  have hstr : ∀ w : Text, (∀ c ∈ w, isWordAscii c = true) → (str w).Local (isGap unicode) :=
    fun w hw => local_str fun c hc => isGap_of_isWordAscii (hw c hc)
  have hrejects : ∀ p : Nat → Bool, (∀ c, p c = true → isWordAscii c = true) →
      Rejects (isGap unicode) p := by
    intro p hp c hc
    by_contra hpc
    rw [Bool.not_eq_false] at hpc
    rw [isGap_of_isWordAscii (hp c hpc)] at hc
    cases hc
  have hboundary : Rejects (isGap unicode) unicode.isWord := by
    intro c hc
    simp only [isGap, Bool.not_eq_true', Bool.or_eq_false_iff] at hc
    exact hc.1
  have hpousr : ∀ c, decide (c ∈ lit "pousr") = true → isWordAscii c = true := by
    intro c hc
    have hall : ∀ d ∈ lit "pousr", isWordAscii d = true := by decide
    exact hall c (of_decide_eq_true hc)
  exact ⟨hboundary, ⟨⟨hstr _ (by decide), hrejects _ hpousr, hstr _ (by decide),
    hrejects _ fun _ h => h⟩, hstr _ (by decide), hrejects _ fun _ h => h⟩, hboundary⟩

theorem fromGroups_const (m : Text) : FromGroups fun _ => m := fun _ _ _ => rfl

/-- A token begins with `g`. -/
theorem redactTokens_eq_self (h : 103 ∉ t) : redactTokens unicode t = t := by
  refine sub_eq_self fun u c v ht => ?_
  cases hf : first (knownTokenRe unicode) ⟨u.reverse, c :: v, []⟩ with
  | none => rfl
  | some m =>
    obtain ⟨z, hz, hm⟩ := mem_run_seq.mp (first_mem hf)
    obtain ⟨-, rfl⟩ := mem_run_boundary.mp hz
    obtain ⟨w, hw, -⟩ := mem_run_seq.mp hm
    have hg : c = 103 := by
      rcases mem_run_alt.mp hw with hw | hw
      · obtain ⟨z, hz, -⟩ := mem_run_seq.mp hw
        obtain ⟨v', hv', -⟩ := mem_run_str.mp hz
        exact (List.cons.inj hv').1
      · obtain ⟨z, hz, -⟩ := mem_run_seq.mp hw
        obtain ⟨v', hv', -⟩ := mem_run_str.mp hz
        exact (List.cons.inj hv').1
    refine absurd ?_ h
    rw [ht, hg]
    exact List.mem_append_right _ List.mem_cons_self

/-- What the characters of a text and of the mark have in common is kept. -/
theorem redactTokens_forall {p : Nat → Bool} (hmark : ∀ c ∈ redactedMark, p c = true) (hne : t ≠ [])
    (ht : ∀ c ∈ t, p c = true) :
    redactTokens unicode t ≠ [] ∧ ∀ c ∈ redactTokens unicode t, p c = true :=
  ⟨sub_ne_nil consumes_knownTokenRe hne fun _ => by decide,
    forall_mem_sub consumes_knownTokenRe ht fun _ => hmark⟩

/-- **A single word** is a token or is kept. -/
theorem redactTokens_word (ht : ∀ c ∈ t, unicode.isWord c = true) :
    redactTokens unicode t = t ∨ redactTokens unicode t = redactedMark := by
  have hhead : ∀ {u : Text}, u ≠ [] → (∀ c ∈ u, unicode.isWord c = true) →
      headIn unicode.isWord u = true := by
    intro u hu hword
    obtain ⟨c, cs, rfl⟩ := List.exists_cons_of_ne_nil hu
    exact hword c List.mem_cons_self
  cases hf : first (knownTokenRe unicode) ⟨[], t, []⟩ with
  | none =>
    refine Or.inl (sub_eq_self fun u c v htext => ?_)
    by_cases hu : u = []
    · subst hu
      rwa [htext] at hf
    · -- inside the word there is no boundary
      rw [first_eq_none_iff]
      intro y hy
      obtain ⟨z, hz, -⟩ := mem_run_seq.mp hy
      refine (mem_run_boundary.mp hz).1 ?_
      rw [headIn_cons, ht c (by rw [htext]; simp), hhead (by simpa using hu)]
      intro d hd
      exact ht d (by rw [htext]; exact List.mem_append_left _ (List.mem_reverse.mp hd))
  | some m =>
    right
    obtain ⟨u, hu, hbehind⟩ := run_sound (first_mem hf)
    change t = u ++ m.ahead at hu
    have hne : u ≠ [] := by
      rintro rfl
      exact consumes_knownTokenRe _ _ (first_mem hf) hu.symm
    have hrest : m.ahead = [] := by
      obtain ⟨z, -, hm⟩ := mem_run_seq.mp (first_mem hf)
      obtain ⟨w, -, hy⟩ := mem_run_seq.mp hm
      obtain ⟨hboundary, rfl⟩ := mem_run_boundary.mp hy
      by_contra hahead
      refine hboundary ?_
      rw [hhead hahead, hbehind, List.append_nil, hhead (by simpa using hne)]
      · intro d hd
        exact ht d (hu ▸ List.mem_append_left _ (List.mem_reverse.mp hd))
      · intro d hd
        exact ht d (hu ▸ List.mem_append_right _ hd)
    rw [hrest] at hu
    rw [hu] at hf ⊢
    rw [redactTokens, sub_eq_subFrom, subFrom_hit hne hf hrest, subFrom_nil, List.append_nil]

/-! ## Forms of credentials -/

/-- A character of a value that is no sign of an assignment. -/
def isPlainChar (c : Nat) : Bool := isSecretChar c && c != 58 && c != 61

/-- `[A-Za-z0-9._~+-]`. -/
def isCredentialChar (c : Nat) : Bool := isWordAscii c || c == 46 || c == 126 || c == 43 || c == 45

/-- What stands before a credential: nothing, or a text with white space at the end. -/
structure Before where
  text : Text
  ends : EndsInSpace text

/-- Empty, or with white space at the start. -/
def StartsInSpace (t : Text) : Prop := ∀ c ∈ t.head?, isSpace c = true

/-- What stands behind it: nothing, or a text with white space at the start. -/
structure After where
  text : Text
  starts : StartsInSpace text

structure Secret where
  text : Text
  nonempty : text ≠ []
  chars : ∀ c ∈ text, isCredentialChar c = true

/-- The word of an authorization scheme. -/
structure AuthScheme where
  text : Text
  nonempty : text ≠ []
  chars : ∀ c ∈ text, isPlainChar c = true ∧ c ≠ 47

/-- A name of a secret in any case. -/
structure Name where
  text : Text
  ascii : ∀ c ∈ text, c < 128
  named : text.map foldCase ∈ [lit "authorization", lit "cookie", lit "password", lit "session",
    lit "token", lit "api_key"]

/-- A variable: a name alone, or as the last part of a longer one. -/
inductive Variable where
  | bare (name : Name)
  | longer (stem : Text) (chars : ∀ c ∈ stem, isWordAscii c = true) (name : Name)

def Variable.text : Variable → Text
  | .bare name => name.text
  | .longer stem _ name => stem ++ lit "_" ++ name.text

structure UrlScheme where
  text : Text
  http : IsScheme text

structure User where
  text : Text
  nonempty : text ≠ []
  chars : ∀ c ∈ text, isUserChar c = true

/-- The forms of a credential, without the secret. -/
inductive Form where
  /-- `Authorization: <scheme> s`. -/
  | header (scheme : AuthScheme)
  /-- `NAME=s`. -/
  | assigned (name : Variable)
  /-- `NAME: s`. -/
  | declared (name : Variable)
  /-- `https://user:s@…`. -/
  | userPassword (scheme : UrlScheme) (user : User) (rest : Text)
  /-- `https://s@…`. -/
  | userToken (scheme : UrlScheme) (rest : Text)

/-- The form with its secret. -/
def Form.write (secret : Text) : Form → Text
  | .header scheme => lit "Authorization: " ++ scheme.text ++ lit " " ++ secret
  | .assigned name => name.text ++ lit "=" ++ secret
  | .declared name => name.text ++ lit ": " ++ secret
  | .userPassword scheme user rest =>
    scheme.text ++ lit "://" ++ user.text ++ lit ":" ++ secret ++ lit "@" ++ rest
  | .userToken scheme rest => scheme.text ++ lit "://" ++ secret ++ lit "@" ++ rest

variable (unicode)

/-- The output does not depend on the secret. -/
def Independent (before : Before) (form : Form) (after : After) : Prop :=
  ∀ s s' : Secret, redactText unicode (before.text ++ form.write s.text ++ after.text) =
    redactText unicode (before.text ++ form.write s'.text ++ after.text)

/-- What the first two substitutions leave. -/
def seen (t : Text) : Text := redactTokens unicode (redactUserinfo [] t)

/-- After the first two substitutions the text before ends in an open assignment. -/
def Waits (before : Before) : Prop := EndsOpen unicode [] (seen unicode before.text)

/-- Where a credential is removed as a whole. -/
def Form.Removed (before : Before) : Form → Prop
  | .header _ => False
  | .assigned (.bare _) => True
  | .assigned (.longer ..) => Waits unicode before
  | .declared (.bare _) => ¬ Waits unicode before
  | .declared (.longer ..) => False
  | .userPassword .. => True
  | .userToken .. => Waits unicode before

/-! ## The stages -/

variable {unicode} {before : Before} {after : After}

theorem redactText_eq (t : Text) :
    redactText unicode t = redactAssignments unicode [] (seen unicode t) := rfl

theorem redactUserinfo_left (ht : EndsInSpace t) (v : Text) :
    redactUserinfo [] (t ++ v) = redactUserinfo [] t ++ redactUserinfo [] v ∧
      EndsInSpace (redactUserinfo [] t) := by
  obtain ⟨heq, hlast⟩ := sub_append_left local_urlUserinfoRe consumes_urlUserinfoRe
    fromGroups_userinfo ht v
  exact ⟨heq, fun c hc => ht c (hlast ▸ hc)⟩

theorem redactUserinfo_right {v : Text} (hv : StartsInSpace v) (t : Text) :
    redactUserinfo [] (t ++ v) = redactUserinfo [] t ++ redactUserinfo [] v ∧
      StartsInSpace (redactUserinfo [] v) := by
  obtain ⟨heq, hhead⟩ := sub_append_right local_urlUserinfoRe consumes_urlUserinfoRe
    fromGroups_userinfo hv t
  exact ⟨heq, fun c hc => hv c (hhead ▸ hc)⟩

theorem redactTokens_left (ht : EndsInSpace t) (v : Text) :
    redactTokens unicode (t ++ v) = redactTokens unicode t ++ redactTokens unicode v ∧
      EndsInSpace (redactTokens unicode t) := by
  obtain ⟨heq, hlast⟩ := sub_append_left (r := knownTokenRe unicode) local_knownTokenRe
    consumes_knownTokenRe (fromGroups_const redactedMark) (fun c hc => isGap_of_isSpace (ht c hc)) v
  exact ⟨heq, fun c hc => ht c (hlast ▸ hc)⟩

theorem redactTokens_right {v : Text} (hv : StartsInSpace v) (t : Text) :
    redactTokens unicode (t ++ v) = redactTokens unicode t ++ redactTokens unicode v ∧
      StartsInSpace (redactTokens unicode v) := by
  obtain ⟨heq, hhead⟩ := sub_append_right (r := knownTokenRe unicode) local_knownTokenRe
    consumes_knownTokenRe (fromGroups_const redactedMark) (fun c hc => isGap_of_isSpace (hv c hc)) t
  exact ⟨heq, fun c hc => hv c (hhead ▸ hc)⟩

/-- A gap is kept, and both sides are replaced on their own. -/
theorem redactTokens_gap {c : Nat} (hc : isGap unicode c = true) (u v : Text) :
    redactTokens unicode (u ++ c :: v) = redactTokens unicode u ++ c :: redactTokens unicode v :=
  sub_append_sep local_knownTokenRe consumes_knownTokenRe (fromGroups_const redactedMark) hc u v

theorem seen_append (x : Text) : seen unicode (before.text ++ x ++ after.text) =
    seen unicode before.text ++ (seen unicode x ++ seen unicode after.text) := by
  obtain ⟨hleft, hends⟩ := redactUserinfo_left before.ends (x ++ after.text)
  obtain ⟨hright, hstarts⟩ := redactUserinfo_right after.starts x
  rw [seen, List.append_assoc, hleft, hright, (redactTokens_left hends _).1,
    (redactTokens_right hstarts _).1]
  rfl

theorem endsInSpace_seen (before : Before) : EndsInSpace (seen unicode before.text) :=
  (redactTokens_left (redactUserinfo_left before.ends []).2 []).2

theorem startsInSpace_seen (unicode : Unicode) (after : After) :
    StartsInSpace (seen unicode after.text) :=
  (redactTokens_right (redactUserinfo_right after.starts []).2 []).2

/-- No value goes on behind a credential. -/
theorem stop_seen (unicode : Unicode) (after : After) :
    headIn isSecretChar (seen unicode after.text) = false := by
  cases h : seen unicode after.text with
  | nil => rfl
  | cons c v =>
    refine isSpace_of_not_isSecretChar (startsInSpace_seen unicode after c ?_)
    rw [h]
    rfl

/-- **Behind an open assignment** the rest of the next word is lost with it. -/
theorem redactText_waits (after : After) (h : Waits unicode before) : ∃ out, ∀ x,
    Plain (seen unicode x ++ seen unicode after.text) →
      redactText unicode (before.text ++ x ++ after.text) = out ++ redactedMark ++
        redactAssignments unicode []
          ((seen unicode x ++ seen unicode after.text).dropWhile isSecretChar) := by
  obtain ⟨out, hout⟩ := redactAssignments_of_endsOpen h (endsInSpace_seen before)
  refine ⟨out, fun x hx => ?_⟩
  rw [redactText_eq, seen_append, hout _ hx]

/-- **Otherwise** a credential is read on its own. -/
theorem redactText_not_waits (after : After) (h : ¬ Waits unicode before) : ∃ out, ∀ x,
    Plain (seen unicode x ++ seen unicode after.text) →
      redactText unicode (before.text ++ x ++ after.text) =
        out ++ redactAssignments unicode [] (seen unicode x ++ seen unicode after.text) := by
  obtain ⟨out, hout⟩ := redactAssignments_of_not_endsOpen _ le_rfl h (endsInSpace_seen before)
  refine ⟨out, fun x hx => ?_⟩
  rw [redactText_eq, seen_append, hout _ hx, List.append_nil]
  congr 1
  refine redactAssignments_congr _ le_rfl ?_
  rcases List.eq_nil_or_concat' (seen unicode before.text) with hnil | ⟨u, c, hc⟩
  · rw [hnil]
    rfl
  · have hends : EndsInSpace (seen unicode before.text) := endsInSpace_seen before
    rw [hc] at hends ⊢
    rw [List.reverse_append, List.reverse_singleton, List.singleton_append, headIn_cons, headIn_nil]
    exact unicode.isWord_space c (hends c List.getLast?_concat)

/-! ## Characters -/

theorem foldCase_of_not_isPlainChar {c : Nat} (h : isPlainChar c = false) : foldCase c = c := by
  by_cases hspace : isSpace c = true
  · exact foldCase_of_isSpace hspace
  · have hsign : c = 44 ∨ c = 59 ∨ c = 58 ∨ c = 61 := by
      simp [isPlainChar, isSecretChar, hspace] at h
      omega
    rcases hsign with rfl | rfl | rfl | rfl <;> decide

/-- Letters of either case stand in a value. -/
theorem isPlainChar_of_foldCase {w : Text} (hw : ∀ d ∈ w, isPlainChar d = true) {c : Nat}
    (hc : foldCase c ∈ w) : isPlainChar c = true := by
  by_contra hplain
  rw [Bool.not_eq_true] at hplain
  rw [foldCase_of_not_isPlainChar hplain] at hc
  rw [hw c hc] at hplain
  cases hplain

theorem plain_of_isCredentialChar {c : Nat} (h : isCredentialChar c = true) :
    isPlainChar c = true ∧ isUserinfoChar c = true ∧ c ≠ 47 ∧ c ≠ 64 := by
  have hascii : c < 128 := by
    simp only [isCredentialChar, isWordAscii, isDigit, Bool.or_eq_true, Bool.and_eq_true,
      decide_eq_true_eq, beq_iff_eq] at h
    omega
  have hall : ∀ d < 128, isCredentialChar d = true →
      isPlainChar d = true ∧ isUserinfoChar d = true ∧ d ≠ 47 ∧ d ≠ 64 := by decide
  exact hall c hascii h

theorem isCredentialChar_of_isWordAscii {c : Nat} (h : isWordAscii c = true) :
    isCredentialChar c = true := by
  simp [isCredentialChar, h]

theorem isSecretChar_of_isPlainChar {c : Nat} (h : isPlainChar c = true) : isSecretChar c = true := by
  simp only [isPlainChar, Bool.and_eq_true] at h
  exact h.1.1

theorem ne_of_isPlainChar {c : Nat} (h : isPlainChar c = true) :
    isSpace c = false ∧ c ≠ 58 ∧ c ≠ 61 := by
  simp only [isPlainChar, isSecretChar, Bool.and_eq_true, Bool.not_eq_true', Bool.or_eq_false_iff,
    bne_iff_ne] at h
  exact ⟨h.1.1.1.1, h.1.2, h.2⟩

/-- A text of such characters is no sign itself. -/
theorem plain_append {u : Text} (hne : u ≠ []) (hu : ∀ c ∈ u, isPlainChar c = true) (v : Text) :
    Plain (u ++ v) := by
  obtain ⟨c, cs, rfl⟩ := List.exists_cons_of_ne_nil hne
  have hc := hu c List.mem_cons_self
  exact ⟨c, cs ++ v, rfl, isSecretChar_of_isPlainChar hc, (ne_of_isPlainChar hc).2⟩

theorem Name.isSecretName (name : Name) : IsSecretName name.text := by
  have hall : ∀ w ∈ [lit "authorization", lit "cookie", lit "password", lit "session", lit "token",
      lit "api_key"], w ∈ secretNames := by decide
  exact hall _ name.named

theorem isPlainChar_of_isNameChar {c : Nat} (h : isNameChar c = true) : isPlainChar c = true := by
  obtain ⟨name, hname, hc⟩ := List.any_eq_true.mp h
  have hall : ∀ name ∈ secretNames, ∀ d ∈ name, isPlainChar d = true := by decide
  exact isPlainChar_of_foldCase (hall name hname) (of_decide_eq_true hc)

theorem Name.chars (name : Name) : ∀ c ∈ name.text, isNameChar c = true :=
  isNameChar_of_mem name.isSecretName

theorem Name.notMem (name : Name) {c : Nat} (hc : isNameChar c = false) : c ∉ name.text := by
  intro hmem
  rw [name.chars c hmem] at hc
  cases hc

theorem IsScheme.plain {scheme : Text} (h : IsScheme scheme) : ∀ c ∈ scheme, isPlainChar c = true :=
  fun c hc => isPlainChar_of_foldCase (by decide) (h.forall_mem c hc)

theorem IsScheme.ne_nil {scheme : Text} (h : IsScheme scheme) : scheme ≠ [] := by
  rintro rfl
  have hnil : ([] : Text) ∉ [lit "http", lit "https"] := by decide
  exact hnil h

/-! ## What is left of each form -/

theorem seen_of_notMem {x : Text} (h : 47 ∉ x) : seen unicode x = redactTokens unicode x := by
  rw [seen, redactUserinfo_eq_self h]

theorem Variable.chars (v : Variable) : v.text ≠ [] ∧ (∀ c ∈ v.text, isPlainChar c = true) ∧
    47 ∉ v.text := by
  cases v with
  | bare name =>
    exact ⟨name.isSecretName.ne_nil, fun c hc => isPlainChar_of_isNameChar (name.chars c hc),
      name.notMem (by decide)⟩
  | longer stem hstem name =>
    refine ⟨by simp [Variable.text, lit], fun c hc => ?_, fun hmem => ?_⟩
    · simp only [Variable.text, List.mem_append] at hc
      rcases hc with (hc | hc) | hc
      · exact (plain_of_isCredentialChar (isCredentialChar_of_isWordAscii (hstem c hc))).1
      · exact (by decide : ∀ d ∈ lit "_", isPlainChar d = true) c hc
      · exact isPlainChar_of_isNameChar (name.chars c hc)
    · simp only [Variable.text, List.mem_append] at hmem
      rcases hmem with (hmem | hmem) | hmem
      · exact absurd (hstem 47 hmem) (by decide)
      · exact absurd hmem (by decide)
      · exact name.notMem (by decide) hmem

theorem redactTokens_plain (unicode : Unicode) {x : Text} (hne : x ≠ [])
    (hx : ∀ c ∈ x, isPlainChar c = true) :
    redactTokens unicode x ≠ [] ∧ ∀ c ∈ redactTokens unicode x, isPlainChar c = true :=
  redactTokens_forall (by decide) hne hx

theorem Secret.seen (unicode : Unicode) (s : Secret) : 47 ∉ s.text ∧
    redactTokens unicode s.text ≠ [] ∧ ∀ c ∈ redactTokens unicode s.text, isPlainChar c = true := by
  refine ⟨fun hmem => absurd (s.chars 47 hmem) (by decide), ?_⟩
  exact redactTokens_plain unicode s.nonempty fun c hc => (plain_of_isCredentialChar (s.chars c hc)).1

theorem seen_header (unicode : Unicode) (scheme : AuthScheme) {s : Text} (hs : 47 ∉ s) :
    seen unicode (Form.write s (.header scheme)) = lit "Authorization" ++
      58 :: 32 :: (redactTokens unicode scheme.text ++ 32 :: redactTokens unicode s) := by
  have hmem : 47 ∉ Form.write s (.header scheme) := by
    simp only [Form.write, List.mem_append, not_or]
    exact ⟨⟨⟨by decide, fun hmem => (scheme.chars 47 hmem).2 rfl⟩, by decide⟩, hs⟩
  have htext : Form.write s (.header scheme) =
      lit "Authorization" ++ 58 :: ([] ++ 32 :: (scheme.text ++ 32 :: s)) := by
    simp only [Form.write, List.append_assoc]
    rfl
  rw [seen_of_notMem hmem, htext, redactTokens_gap (isGap_ascii (by decide) (by decide)),
    redactTokens_gap (isGap_ascii (by decide) (by decide)),
    redactTokens_gap (isGap_ascii (by decide) (by decide)), redactTokens_eq_self (by decide)]
  rfl

theorem seen_assigned (unicode : Unicode) (v : Variable) {s : Text} (hs : 47 ∉ s) :
    seen unicode (Form.write s (.assigned v)) =
      redactTokens unicode v.text ++ 61 :: redactTokens unicode s := by
  have hmem : 47 ∉ Form.write s (.assigned v) := by
    simp only [Form.write, List.mem_append, not_or]
    exact ⟨⟨v.chars.2.2, by decide⟩, hs⟩
  have htext : Form.write s (.assigned v) = v.text ++ 61 :: s := by
    simp only [Form.write, List.append_assoc]
    rfl
  rw [seen_of_notMem hmem, htext, redactTokens_gap (isGap_ascii (by decide) (by decide))]

theorem seen_declared (unicode : Unicode) (v : Variable) {s : Text} (hs : 47 ∉ s) :
    seen unicode (Form.write s (.declared v)) =
      redactTokens unicode v.text ++ 58 :: 32 :: redactTokens unicode s := by
  have hmem : 47 ∉ Form.write s (.declared v) := by
    simp only [Form.write, List.mem_append, not_or]
    exact ⟨⟨v.chars.2.2, by decide⟩, hs⟩
  have htext : Form.write s (.declared v) = v.text ++ 58 :: ([] ++ 32 :: s) := by
    simp only [Form.write, List.append_assoc]
    rfl
  rw [seen_of_notMem hmem, htext, redactTokens_gap (isGap_ascii (by decide) (by decide)),
    redactTokens_gap (isGap_ascii (by decide) (by decide))]
  rfl

theorem seen_userToken (unicode : Unicode) (scheme : UrlScheme) (rest : Text) {s : Text}
    (hs : 58 ∉ s) :
    seen unicode (Form.write s (.userToken scheme rest)) = scheme.text ++
      58 :: 47 :: 47 :: (redactTokens unicode s ++
        64 :: redactTokens unicode (redactUserinfo [64] rest)) := by
  have htext : Form.write s (.userToken scheme rest) =
      scheme.text ++ lit "://" ++ s ++ 64 :: rest := by
    simp only [Form.write, List.append_assoc]
    rfl
  have htext' : scheme.text ++ lit "://" ++ s ++ 64 :: redactUserinfo [64] rest =
      scheme.text ++ 58 :: ([] ++ 47 :: ([] ++ 47 :: (s ++ 64 :: redactUserinfo [64] rest))) := by
    simp only [List.append_assoc]
    rfl
  have hg : 103 ∉ scheme.text := fun hmem =>
    absurd (scheme.http.forall_mem 103 hmem) (by decide)
  rw [seen, htext, redactUserinfo_keep scheme.http hs, htext',
    redactTokens_gap (isGap_ascii (by decide) (by decide)),
    redactTokens_gap (isGap_ascii (by decide) (by decide)),
    redactTokens_gap (isGap_ascii (by decide) (by decide)),
    redactTokens_gap (isGap_ascii (by decide) (by decide)), redactTokens_eq_self hg]
  rfl

theorem seen_userPassword (scheme : UrlScheme) (user : User) (rest : Text) (s : Secret) :
    seen unicode (Form.write s.text (.userPassword scheme user rest)) = redactTokens unicode
      (scheme.text ++ lit "://" ++ redactedMark ++ lit "@" ++ redactUserinfo [64] rest) := by
  have hread : Userinfo (Form.write s.text (.userPassword scheme user rest)) scheme.text user.text
      s.text rest := by
    refine ⟨?_, scheme.http, ⟨user.nonempty, user.chars⟩, s.nonempty,
      fun c hc => (plain_of_isCredentialChar (s.chars c hc)).2.1⟩
    simp only [Form.write, List.append_assoc]
    rfl
  rw [seen, redactUserinfo_url hread]

/-! ## Independence -/

variable {form : Form}

theorem independent_of_const (out : Text) (h : ∀ s : Secret,
    redactText unicode (before.text ++ form.write s.text ++ after.text) = out) :
    Independent unicode before form after := fun s s' => (h s).trans (h s').symm

/-- A secret of one character that no pattern takes for another thing. -/
def IsSign (c : Nat) : Prop := c = 126 ∨ c = 43

/-- A secret that stands in the output. -/
theorem not_independent_of_leak (out rest : Text) (h : ∀ c, IsSign c →
    redactText unicode (before.text ++ form.write [c] ++ after.text) = out ++ c :: rest) :
    ¬ Independent unicode before form after := by
  intro hsame
  have hkept := hsame ⟨[126], by decide, by decide⟩ ⟨[43], by decide, by decide⟩
  rw [h 126 (Or.inl rfl), h 43 (Or.inr rfl)] at hkept
  have := (List.cons.inj (List.append_cancel_left hkept)).1
  omega

theorem IsSign.notMem {c : Nat} (hc : IsSign c) : 47 ∉ [c] ∧ 58 ∉ [c] := by
  rcases hc with rfl | rfl <;> decide

theorem IsSign.tokens {c : Nat} (hc : IsSign c) : redactTokens unicode [c] = [c] := by
  rcases hc with rfl | rfl <;> exact redactTokens_eq_self (by decide)

theorem IsSign.keep {c : Nat} (hc : IsSign c) {behind u v : Text} (hu : 58 ∉ u ∧ 61 ∉ u) :
    redactAssignments unicode behind (u ++ c :: v) =
      u ++ c :: redactAssignments unicode (c :: (u.reverse ++ behind)) v := by
  rcases hc with rfl | rfl <;>
    exact redactAssignments_keep hu (by decide) (by decide) (by decide) (by decide)

/-- Kept up to the end of the secret, and then read on its own. -/
theorem IsSign.kept (unicode : Unicode) {c : Nat} (hc : IsSign c) (after : After) (behind : Text)
    {u : Text} (hu : 58 ∉ u ∧ 61 ∉ u) :
    redactAssignments unicode behind (u ++ c :: seen unicode after.text) =
      u ++ c :: redactAssignments unicode [] (seen unicode after.text) := by
  rw [hc.keep hu, redactAssignments_of_stop (stop_seen unicode after)]

theorem notMem_of_plain {u : Text} (hu : ∀ c ∈ u, isPlainChar c = true) : 58 ∉ u ∧ 61 ∉ u :=
  ⟨fun h => (ne_of_isPlainChar (hu 58 h)).2.1 rfl, fun h => (ne_of_isPlainChar (hu 61 h)).2.2 rfl⟩

/-- A name begins with a letter. -/
theorem Name.atBoundary (name : Name) (v : Text) : AtBoundary unicode [] (name.text ++ v) := by
  obtain ⟨text, hascii, hnamed⟩ := name
  have hletter : ∀ w ∈ [lit "authorization", lit "cookie", lit "password", lit "session", lit "token",
      lit "api_key"], headIn (fun d => 97 ≤ d && d ≤ 122) w = true := by decide
  have hword : ∀ c < 128, (97 ≤ foldCase c && foldCase c ≤ 122) = true → isWordAscii c = true := by
    decide
  have hhead := hletter _ hnamed
  cases text with
  | nil => cases hhead
  | cons c cs =>
    have hc := hascii c List.mem_cons_self
    change false ≠ unicode.isWord c
    rw [unicode.isWord_ascii c hc, hword c hc hhead]
    decide

/-- **The value of a name is masked.** -/
theorem redactAssignments_name (unicode : Unicode) (name : Name) {sep value : Text}
    (hsep : IsSeparator sep) (hne : value ≠ []) (hvalue : ∀ c ∈ value, isPlainChar c = true)
    (rest : Text) (hrest : headIn isSecretChar rest = false) :
    redactAssignments unicode [] (name.text ++ (sep ++ (value ++ rest))) =
      name.text ++ sep ++ redactedMark ++ redactAssignments unicode [] rest := by
  have hread : Assignment (name.text ++ (sep ++ (value ++ rest))) name.text sep value rest :=
    ⟨rfl, name.isSecretName, hsep, hne, fun c hc => isSecretChar_of_isPlainChar (hvalue c hc), hrest⟩
  rw [redactAssignments_hit (name.atBoundary _) hread]
  congr 1
  exact redactAssignments_of_stop hrest

/-- `Authorization`. -/
def authorization : Name := ⟨lit "Authorization", by decide, by decide⟩

theorem isSeparator_colon : IsSeparator (lit ": ") :=
  ⟨[], 58, [32], rfl, by decide, Or.inl rfl, by decide⟩

theorem isSeparator_equals : IsSeparator (lit "=") :=
  ⟨[], 61, [], rfl, by decide, Or.inr rfl, by decide⟩

/-- A header's value is its scheme, and what follows the scheme is kept. -/
theorem not_independent_header (scheme : AuthScheme) :
    ¬ Independent unicode before (.header scheme) after := by
  obtain ⟨hne, hplain⟩ := redactTokens_plain unicode scheme.nonempty
    fun c hc => (scheme.chars c hc).1
  have hseen : ∀ c, IsSign c → seen unicode (Form.write [c] (.header scheme)) ++
      seen unicode after.text = lit "Authorization" ++ (lit ": " ++
        (redactTokens unicode scheme.text ++ 32 :: c :: seen unicode after.text)) := by
    intro c hc
    rw [seen_header unicode scheme hc.notMem.1, hc.tokens]
    simp [lit]
  have hstart : ∀ v : Text, Plain (lit "Authorization" ++ v) := plain_append (by decide) (by decide)
  by_cases hw : Waits unicode before
  · obtain ⟨out, hout⟩ := redactText_waits after hw
    refine not_independent_of_leak (out ++ redactedMark ++ (32 ::
      (redactTokens unicode scheme.text ++ [32])))
      (redactAssignments unicode [] (seen unicode after.text)) fun c hc => ?_
    have hdrop : ∀ v : Text, (lit "Authorization" ++ (lit ": " ++ v)).dropWhile isSecretChar =
        32 :: v := fun v => dropWhile_append_stop (u := lit "Authorization:") (by decide) rfl
    have hu : 58 ∉ 32 :: (redactTokens unicode scheme.text ++ [32]) ∧
        61 ∉ 32 :: (redactTokens unicode scheme.text ++ [32]) := by
      obtain ⟨h58, h61⟩ := notMem_of_plain hplain
      simp [h58, h61]
    have hkept : redactAssignments unicode [] (32 ::
        (redactTokens unicode scheme.text ++ 32 :: c :: seen unicode after.text)) =
          32 :: (redactTokens unicode scheme.text ++ 32 ::
            c :: redactAssignments unicode [] (seen unicode after.text)) := by
      have := hc.kept unicode after [] hu
      simpa using this
    have hx := hseen c hc
    rw [hout _ (hx ▸ hstart _), hx, hdrop, hkept]
    simp
  · obtain ⟨out, hout⟩ := redactText_not_waits after hw
    refine not_independent_of_leak (out ++ (lit "Authorization" ++ lit ": " ++ redactedMark ++ [32]))
      (redactAssignments unicode [] (seen unicode after.text)) fun c hc => ?_
    have hu : 58 ∉ ([32] : Text) ∧ 61 ∉ ([32] : Text) := by decide
    have hkept := hc.kept unicode after [] hu
    have hx := hseen c hc
    have hmasked := redactAssignments_name unicode authorization isSeparator_colon hne hplain
      (32 :: c :: seen unicode after.text) rfl
    rw [hout _ (hx ▸ hstart _), hx, show lit "Authorization" = authorization.text from rfl, hmasked,
      show 32 :: c :: seen unicode after.text = [32] ++ c :: seen unicode after.text from rfl, hkept]
    simp

/-! ### Assignments -/

theorem isWord_of_isWordAscii {c : Nat} (h : isWordAscii c = true) : unicode.isWord c = true := by
  have hascii : c < 128 := by
    simp only [isWordAscii, isDigit, Bool.or_eq_true, Bool.and_eq_true, decide_eq_true_eq,
      beq_iff_eq] at h
    omega
  rw [unicode.isWord_ascii c hascii, h]

theorem Name.word (name : Name) : ∀ c ∈ name.text, isWordAscii c = true := by
  intro c hc
  have hall : ∀ w ∈ [lit "authorization", lit "cookie", lit "password", lit "session", lit "token",
      lit "api_key"], ∀ d ∈ w, (97 ≤ d && d ≤ 122 || d == 95) = true := by decide
  have hascii : ∀ d < 128, (97 ≤ foldCase d && foldCase d ≤ 122 || foldCase d == 95) = true →
      isWordAscii d = true := by decide
  exact hascii c (name.ascii c hc) (hall _ name.named _ (List.mem_map_of_mem hc))

/-- **A longer variable is no name**, nor is what the second substitution leaves of it. -/
theorem noName_longer (unicode : Unicode) (stem : Text) (hstem : ∀ c ∈ stem, isWordAscii c = true)
    (name : Name) : NoName unicode [] (redactTokens unicode (Variable.longer stem hstem name).text) := by
  have hword : ∀ c ∈ (Variable.longer stem hstem name).text, unicode.isWord c = true := by
    intro c hc
    simp only [Variable.text, List.mem_append] at hc
    rcases hc with (hc | hc) | hc
    · exact isWord_of_isWordAscii (hstem c hc)
    · exact isWord_of_isWordAscii ((by decide : ∀ d ∈ lit "_", isWordAscii d = true) c hc)
    · exact isWord_of_isWordAscii (name.word c hc)
  rcases redactTokens_word hword with heq | heq <;> rw [heq] <;> intro u w hw hname hb
  · by_cases hu : u = []
    · subst hu
      have hno : ∀ v ∈ secretNames, ∀ n ∈ [lit "authorization", lit "cookie", lit "password",
          lit "session", lit "token", lit "api_key"], ¬ (lit "_" ++ n) <:+ v := by decide
      refine hno _ hname _ name.named ⟨stem.map foldCase, ?_⟩
      rw [List.nil_append] at hw
      rw [← hw, Variable.text, List.append_assoc, List.map_append, List.map_append]
      rfl
    · obtain ⟨c, cs, hc⟩ := List.exists_cons_of_ne_nil (List.reverse_ne_nil_iff.mpr hu)
      obtain ⟨d, ds, rfl⟩ := List.exists_cons_of_ne_nil hname.ne_nil
      have hcu : c ∈ u := by
        rw [← List.mem_reverse, hc]
        exact List.mem_cons_self
      refine hb ?_
      rw [hc, List.cons_append, headIn_cons, headIn_cons, hword c (hw ▸ List.mem_append_left _ hcu),
        hword d (hw ▸ List.mem_append_right _ List.mem_cons_self)]
  · have hno : ∀ v ∈ redactedMark.tails, v.map foldCase ∉ secretNames := by decide
    exact hno w ((List.mem_tails _ _).mpr ⟨u, hw.symm⟩) hname

theorem noName_scheme (scheme : UrlScheme) : NoName unicode [] scheme.text := by
  intro u w hw hname _
  have hno : ∀ v ∈ [lit "http", lit "https"], ∀ n ∈ secretNames, ¬ n <:+ v := by decide
  refine hno _ scheme.http _ hname ⟨u.map foldCase, ?_⟩
  rw [hw, List.map_append]

/-- A value that is longer than the variable, up to white space. -/
theorem independent_assigned_of_waits (name : Variable) (hw : Waits unicode before) :
    Independent unicode before (.assigned name) after := by
  obtain ⟨out, hout⟩ := redactText_waits after hw
  obtain ⟨hne, hplain⟩ := redactTokens_plain unicode name.chars.1 name.chars.2.1
  refine independent_of_const (out ++ redactedMark ++
    redactAssignments unicode [] (seen unicode after.text)) fun s => ?_
  obtain ⟨hslash, -, hsecret⟩ := s.seen unicode
  have hvalue : ∀ c ∈ redactTokens unicode name.text ++ 61 :: redactTokens unicode s.text,
      isSecretChar c = true := by
    intro c hc
    rcases List.mem_append.mp hc with hc | hc
    · exact isSecretChar_of_isPlainChar (hplain c hc)
    · rcases List.mem_cons.mp hc with rfl | hc
      · decide
      · exact isSecretChar_of_isPlainChar (hsecret c hc)
  have hx := seen_assigned unicode name hslash
  have hstart : Plain (seen unicode (Form.write s.text (.assigned name)) ++
      seen unicode after.text) := by
    rw [hx, List.append_assoc]
    exact plain_append hne hplain _
  rw [hout _ hstart, hx, dropWhile_append_stop hvalue (stop_seen unicode after)]

theorem redactTokens_name (name : Name) : redactTokens unicode name.text = name.text :=
  redactTokens_eq_self (name.notMem (by decide))

theorem independent_assigned_bare (name : Name) (hw : ¬ Waits unicode before) :
    Independent unicode before (.assigned (.bare name)) after := by
  obtain ⟨out, hout⟩ := redactText_not_waits after hw
  refine independent_of_const (out ++ (name.text ++ lit "=" ++ redactedMark ++
    redactAssignments unicode [] (seen unicode after.text))) fun s => ?_
  obtain ⟨hslash, hne, hsecret⟩ := s.seen unicode
  have hx : seen unicode (Form.write s.text (.assigned (.bare name))) ++ seen unicode after.text =
      name.text ++ (lit "=" ++ (redactTokens unicode s.text ++ seen unicode after.text)) := by
    rw [seen_assigned unicode _ hslash, Variable.text, redactTokens_name, List.append_assoc]
    rfl
  have hchars := (Variable.bare name).chars
  rw [hout _ (hx ▸ plain_append hchars.1 hchars.2.1 _), hx,
    redactAssignments_name unicode name isSeparator_equals hne hsecret _ (stop_seen unicode after)]

/-- **A longer variable is not seen**, and its value is kept. -/
theorem not_independent_assigned_longer (stem : Text) (hstem : ∀ c ∈ stem, isWordAscii c = true)
    (name : Name) (hw : ¬ Waits unicode before) :
    ¬ Independent unicode before (.assigned (.longer stem hstem name)) after := by
  obtain ⟨out, hout⟩ := redactText_not_waits after hw
  have hchars := (Variable.longer stem hstem name).chars
  obtain ⟨hne, hplain⟩ := redactTokens_plain unicode hchars.1 hchars.2.1
  have hno := noName_longer unicode stem hstem name
  refine not_independent_of_leak (out ++
    (redactTokens unicode (Variable.longer stem hstem name).text ++ [61]))
    (redactAssignments unicode [] (seen unicode after.text)) fun c hc => ?_
  have hx : seen unicode (Form.write [c] (.assigned (.longer stem hstem name))) ++
      seen unicode after.text = redactTokens unicode (Variable.longer stem hstem name).text ++
        61 :: ([] ++ c :: seen unicode after.text) := by
    rw [seen_assigned unicode _ hc.notMem.1, hc.tokens]
    simp
  rw [hout _ (hx ▸ plain_append hne hplain _), hx,
    redactAssignments_keep_word (fun d hd => ne_of_isPlainChar (hplain d hd)) hno (by decide),
    hc.kept unicode after _ ⟨List.not_mem_nil, List.not_mem_nil⟩]
  simp

/-! ### Declarations -/

theorem seen_declared_append (unicode : Unicode) (name : Variable) (after : After) {s : Text}
    (hs : 47 ∉ s) : seen unicode (Form.write s (.declared name)) ++ seen unicode after.text =
      redactTokens unicode name.text ++ 58 :: ([32] ++ (redactTokens unicode s ++
        seen unicode after.text)) := by
  rw [seen_declared unicode name hs]
  simp

/-- The name is lost behind an open assignment, and its value is kept. -/
theorem not_independent_declared_of_waits (name : Variable) (hw : Waits unicode before) :
    ¬ Independent unicode before (.declared name) after := by
  obtain ⟨out, hout⟩ := redactText_waits after hw
  obtain ⟨hne, hplain⟩ := redactTokens_plain unicode name.chars.1 name.chars.2.1
  refine not_independent_of_leak (out ++ redactedMark ++ [32])
    (redactAssignments unicode [] (seen unicode after.text)) fun c hc => ?_
  have hx := seen_declared_append unicode name after hc.notMem.1
  have hvalue : ∀ d ∈ redactTokens unicode name.text ++ [58], isSecretChar d = true := by
    intro d hd
    rcases List.mem_append.mp hd with hd | hd
    · exact isSecretChar_of_isPlainChar (hplain d hd)
    · obtain rfl := List.mem_singleton.mp hd
      decide
  have hdrop : ∀ v, (redactTokens unicode name.text ++ 58 :: ([32] ++ v)).dropWhile isSecretChar =
      [32] ++ v := by
    intro v
    have := dropWhile_append_stop (v := [32] ++ v) hvalue rfl
    rwa [List.append_assoc] at this
  have hspace : 58 ∉ ([32] : Text) ∧ 61 ∉ ([32] : Text) := by decide
  rw [hout _ (hx ▸ plain_append hne hplain _), hx, hdrop, hc.tokens, List.singleton_append (x := c),
    hc.kept unicode after _ hspace]
  simp

theorem independent_declared_bare (name : Name) (hw : ¬ Waits unicode before) :
    Independent unicode before (.declared (.bare name)) after := by
  obtain ⟨out, hout⟩ := redactText_not_waits after hw
  refine independent_of_const (out ++ (name.text ++ lit ": " ++ redactedMark ++
    redactAssignments unicode [] (seen unicode after.text))) fun s => ?_
  obtain ⟨hslash, hne, hsecret⟩ := s.seen unicode
  have hx : seen unicode (Form.write s.text (.declared (.bare name))) ++ seen unicode after.text =
      name.text ++ (lit ": " ++ (redactTokens unicode s.text ++ seen unicode after.text)) := by
    rw [seen_declared_append unicode _ _ hslash, Variable.text, redactTokens_name]
    rfl
  have hchars := (Variable.bare name).chars
  rw [hout _ (hx ▸ plain_append hchars.1 hchars.2.1 _), hx,
    redactAssignments_name unicode name isSeparator_colon hne hsecret _ (stop_seen unicode after)]

theorem not_independent_declared_longer (stem : Text) (hstem : ∀ c ∈ stem, isWordAscii c = true)
    (name : Name) (hw : ¬ Waits unicode before) :
    ¬ Independent unicode before (.declared (.longer stem hstem name)) after := by
  obtain ⟨out, hout⟩ := redactText_not_waits after hw
  have hchars := (Variable.longer stem hstem name).chars
  obtain ⟨hne, hplain⟩ := redactTokens_plain unicode hchars.1 hchars.2.1
  have hno := noName_longer unicode stem hstem name
  refine not_independent_of_leak (out ++
    (redactTokens unicode (Variable.longer stem hstem name).text ++ lit ": "))
    (redactAssignments unicode [] (seen unicode after.text)) fun c hc => ?_
  have hx := seen_declared_append unicode (.longer stem hstem name) after hc.notMem.1
  have hspace : 58 ∉ ([32] : Text) ∧ 61 ∉ ([32] : Text) := by decide
  rw [hout _ (hx ▸ plain_append hne hplain _), hx,
    redactAssignments_keep_word (fun d hd => ne_of_isPlainChar (hplain d hd)) hno (by decide),
    hc.tokens, List.singleton_append (x := c), hc.kept unicode after _ hspace]
  simp [lit]

/-! ### URLs -/

theorem independent_userPassword (scheme : UrlScheme) (user : User) (rest : Text) :
    Independent unicode before (.userPassword scheme user rest) after := by
  intro s s'
  rw [redactText_eq, redactText_eq, seen_append, seen_append, seen_userPassword, seen_userPassword]

theorem seen_userToken_append (unicode : Unicode) (scheme : UrlScheme) (rest : Text) (after : After)
    {s : Text} (hs : 58 ∉ s) : seen unicode (Form.write s (.userToken scheme rest)) ++
      seen unicode after.text = scheme.text ++ 58 :: ([47, 47] ++ (redactTokens unicode s ++
        64 :: (redactTokens unicode (redactUserinfo [64] rest) ++ seen unicode after.text))) := by
  rw [seen_userToken unicode scheme rest hs]
  simp

/-- The URL is lost behind an open assignment. -/
theorem independent_userToken_of_waits (scheme : UrlScheme) (rest : Text)
    (hw : Waits unicode before) : Independent unicode before (.userToken scheme rest) after := by
  obtain ⟨out, hout⟩ := redactText_waits after hw
  refine independent_of_const (out ++ redactedMark ++ redactAssignments unicode []
    ((redactTokens unicode (redactUserinfo [64] rest) ++ seen unicode after.text).dropWhile
      isSecretChar)) fun s => ?_
  obtain ⟨-, hne, hsecret⟩ := s.seen unicode
  have hcolon : 58 ∉ s.text := fun hmem => absurd (s.chars 58 hmem) (by decide)
  have hx := seen_userToken_append unicode scheme rest after hcolon
  have hvalue : ∀ c ∈ scheme.text ++ lit "://" ++ redactTokens unicode s.text ++ [64],
      isSecretChar c = true := by
    intro c hc
    rcases List.mem_append.mp hc with hc | hc
    · rcases List.mem_append.mp hc with hc | hc
      · rcases List.mem_append.mp hc with hc | hc
        · exact isSecretChar_of_isPlainChar (scheme.http.plain c hc)
        · exact (by decide : ∀ d ∈ lit "://", isSecretChar d = true) c hc
      · exact isSecretChar_of_isPlainChar (hsecret c hc)
    · obtain rfl := List.mem_singleton.mp hc
      decide
  have hdrop : ∀ v, (scheme.text ++ 58 :: ([47, 47] ++ (redactTokens unicode s.text ++
      64 :: v))).dropWhile isSecretChar = v.dropWhile isSecretChar := by
    intro v
    have htext : scheme.text ++ 58 :: ([47, 47] ++ (redactTokens unicode s.text ++ 64 :: v)) =
        scheme.text ++ lit "://" ++ redactTokens unicode s.text ++ [64] ++ v := by
      simp [lit]
    rw [htext, List.dropWhile_append_of_pos hvalue]
  rw [hout _ (hx ▸ plain_append scheme.http.ne_nil scheme.http.plain _), hx, hdrop]

/-- A URL whose userinfo is one word is kept. -/
theorem not_independent_userToken (scheme : UrlScheme) (rest : Text) (hw : ¬ Waits unicode before) :
    ¬ Independent unicode before (.userToken scheme rest) after := by
  obtain ⟨out, hout⟩ := redactText_not_waits after hw
  refine not_independent_of_leak (out ++ (scheme.text ++ lit "://"))
    (redactAssignments unicode []
      (64 :: (redactTokens unicode (redactUserinfo [64] rest) ++ seen unicode after.text)))
    fun c hc => ?_
  have hx := seen_userToken_append unicode scheme rest after hc.notMem.2
  have hslashes : 58 ∉ ([47, 47] : Text) ∧ 61 ∉ ([47, 47] : Text) := by decide
  have hword : unicode.isWord c = false := by
    rcases hc with rfl | rfl
    · rw [unicode.isWord_ascii 126 (by decide)]
      decide
    · rw [unicode.isWord_ascii 43 (by decide)]
      decide
  have hbehind : ∀ behind v, redactAssignments unicode (c :: behind) v =
      redactAssignments unicode [] v := fun behind v => redactAssignments_congr _ le_rfl hword
  rw [hout _ (hx ▸ plain_append scheme.http.ne_nil scheme.http.plain _), hx,
    redactAssignments_keep_word (fun d hd => ne_of_isPlainChar (scheme.http.plain d hd))
      (noName_scheme scheme) (by decide), hc.tokens, List.singleton_append (x := c),
    hc.keep hslashes, hbehind]
  simp [lit]

/-! ## All forms -/

/-- **Exactly which credentials leave no trace.** -/
theorem independent_iff (unicode : Unicode) (before : Before) (form : Form) (after : After) :
    Independent unicode before form after ↔ form.Removed unicode before := by
  by_cases hw : Waits unicode before
  · cases form with
    | header scheme => exact iff_of_false (not_independent_header scheme) id
    | assigned name =>
      refine iff_of_true (independent_assigned_of_waits name hw) ?_
      cases name with
      | bare name => trivial
      | longer stem hstem name => exact hw
    | declared name =>
      refine iff_of_false (not_independent_declared_of_waits name hw) ?_
      cases name with
      | bare name => exact not_not_intro hw
      | longer stem hstem name => exact id
    | userPassword scheme user rest =>
      exact iff_of_true (independent_userPassword scheme user rest) trivial
    | userToken scheme rest => exact iff_of_true (independent_userToken_of_waits scheme rest hw) hw
  · cases form with
    | header scheme => exact iff_of_false (not_independent_header scheme) id
    | assigned name =>
      cases name with
      | bare name => exact iff_of_true (independent_assigned_bare name hw) trivial
      | longer stem hstem name =>
        exact iff_of_false (not_independent_assigned_longer stem hstem name hw) hw
    | declared name =>
      cases name with
      | bare name => exact iff_of_true (independent_declared_bare name hw) hw
      | longer stem hstem name =>
        exact iff_of_false (not_independent_declared_longer stem hstem name hw) id
    | userPassword scheme user rest =>
      exact iff_of_true (independent_userPassword scheme user rest) trivial
    | userToken scheme rest => exact iff_of_false (not_independent_userToken scheme rest hw) hw

/-- `Authorization: Bearer` with two secrets. -/
theorem bearer_leaks : ¬ ∀ (unicode : Unicode) (before : Before) (form : Form) (after : After),
    Independent unicode before form after := by
  intro h
  have hsame := h .ascii ⟨[], by rintro c ⟨⟩⟩ (.header ⟨lit "Bearer", by decide, by decide⟩)
    ⟨[], by rintro c ⟨⟩⟩ ⟨lit "s3cr3t", by decide, by decide⟩ ⟨lit "other", by decide, by decide⟩
  have hdiffer : redactText .ascii (lit "Authorization: Bearer s3cr3t") ≠
      redactText .ascii (lit "Authorization: Bearer other") := by decide +kernel
  exact hdiffer hsame

end ApiTests.Evidence
