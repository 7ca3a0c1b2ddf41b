import TestScribe.Format.Builtin
import TestScribe.Proofs.Text.Replacing
import TestScribe.Proofs.Text.Trimming

/-!
Overriding the address of a recording. The code that visits a relative target has the recorded
address in it without the slashes at its end, and then one slash, but what is replaced is the
address as it was recorded. So putting another address in its place comes to the same as having
recorded that one only if the two end in equally many slashes, of which there is at most one; and
the target must not have the recorded address in it as it is written in a literal
(`override_eq_recorded`).
-/

namespace TestScribe

namespace Literal

/-- Whether a character stands for itself in the literals of all formats. -/
def isPlain (c : Char) : Bool :=
  c != '\\' && c != '\"' && c != '\'' && c != '\n' && c != '\r'

variable {quote : Char}

theorem escapeChar_of_isPlain (hq : quote = '\"' ∨ quote = '\'') {c : Char}
    (h : isPlain c = true) : escapeChar quote c = [c] := by
  simp only [isPlain, Bool.and_eq_true, bne_iff_ne] at h
  obtain ⟨⟨⟨⟨hslash, hdouble⟩, hsingle⟩, hfeed⟩, hreturn⟩ := h
  have hquote : c ≠ quote := by rcases hq with rfl | rfl <;> assumption
  simp [escapeChar, hslash, hquote, hfeed, hreturn]

theorem escape_of_isPlain (hq : quote = '\"' ∨ quote = '\'') {t : Text}
    (h : ∀ c ∈ t, isPlain c = true) : escape quote t = t := by
  induction t with
  | nil => rfl
  | cons c r ih =>
    obtain ⟨hc, hr⟩ := List.forall_mem_cons.1 h
    rw [escape_cons, escapeChar_of_isPlain hq hc, ih hr, List.singleton_append]

theorem head?_escape_ne {c : Char} (hc : c ≠ '\\') {t : Text} (h : t.head? ≠ some c) :
    (escape quote t).head? ≠ some c := by
  cases t with
  | nil => simp
  | cons d r =>
    have hd : d ≠ c := by simpa using h
    rw [escape_cons]
    unfold escapeChar
    split_ifs <;> simp [Ne.symm hc, hd]

end Literal

theorem Text.replicate_append_inj {c : Char} {x y : Text} (hx : x.head? ≠ some c)
    (hy : y.head? ≠ some c) (m n : Nat) :
    List.replicate m c ++ x = List.replicate n c ++ y ↔ m = n ∧ x = y := by
  induction m generalizing n with
  | zero =>
    cases n with
    | zero => simp
    | succ n =>
      refine ⟨fun h => ?_, fun h => by simp at h⟩
      rw [List.replicate_zero, List.nil_append] at h
      exact absurd (by rw [h]; rfl) hx
  | succ m ih =>
    cases n with
    | zero =>
      refine ⟨fun h => ?_, fun h => by simp at h⟩
      rw [List.replicate_zero, List.nil_append] at h
      exact absurd (by rw [← h]; rfl) hy
    | succ n => simp [List.replicate_succ, ih n]

namespace Address

variable {u w t e : Text}

def stem (u : Text) : Text := Text.dropEndWhile (· = '/') u

def slashes (u : Text) : Nat := u.length - (stem u).length

theorem stem_append_slashes (u : Text) : stem u ++ List.replicate (slashes u) '/' = u := by
  obtain ⟨s, hs, hslash⟩ := Text.exists_dropEndWhile_append (fun c : Char => decide (c = '/')) u
  have hlength : slashes u = s.length := by
    have hsum := congrArg List.length hs
    rw [List.length_append] at hsum
    rw [slashes, stem]
    omega
  have hreplicate : s = List.replicate s.length '/' :=
    List.eq_replicate_iff.2 ⟨rfl, fun c hc => by simpa using hslash c hc⟩
  rw [hlength, ← hreplicate, stem, ← hs]

/-- The address that a target stands for, where `recorded` is the address of the recording. -/
def complete (target recorded : Text) : Text :=
  if isAbsolute target = true ∨ recorded = [] then target
  else if target = [] then recorded
  else attach recorded target

/-- An address with a scheme, whose characters all stand for themselves in literals. -/
structure IsPlain (u : Text) : Prop where
  absolute : isAbsolute u = true
  literal : ∀ c ∈ u, Literal.isPlain c = true

instance (u : Text) : Decidable (IsPlain u) :=
  decidable_of_iff (isAbsolute u = true ∧ u.all Literal.isPlain = true)
    ⟨fun ⟨habsolute, hliteral⟩ => ⟨habsolute, List.all_eq_true.1 hliteral⟩,
      fun h => ⟨h.absolute, List.all_eq_true.2 h.literal⟩⟩

namespace IsPlain

theorem exists_cons (h : IsPlain u) : ∃ c r, u = c :: r ∧ c ≠ '/' ∧ ':' ∈ r := by
  have habsolute := h.absolute
  cases u with
  | nil => simp [isAbsolute] at habsolute
  | cons c r =>
    simp only [isAbsolute, Bool.and_eq_true] at habsolute
    refine ⟨c, r, rfl, ?_, ?_⟩
    · rintro rfl
      exact absurd habsolute.1 (by decide)
    · have hstart := List.isPrefixOf_iff_prefix.1 habsolute.2
      exact (List.dropWhile_sublist _).subset (hstart.subset (by simp))

theorem ne_nil (h : IsPlain u) : u ≠ [] := by
  obtain ⟨c, r, rfl, -⟩ := h.exists_cons
  exact List.cons_ne_nil c r

theorem colon_mem (h : IsPlain u) : ':' ∈ u := by
  obtain ⟨c, r, rfl, -, hr⟩ := h.exists_cons
  exact List.mem_cons_of_mem c hr

theorem not_infix (h : IsPlain u) (ht : ':' ∉ t) : ¬ u <:+: t :=
  fun hfound => ht (hfound.subset h.colon_mem)

theorem not_prefix_slash (h : IsPlain u) (t : Text) : ¬ u <+: '/' :: t := by
  obtain ⟨c, r, rfl, hc, -⟩ := h.exists_cons
  exact fun hstart => hc (List.cons_prefix_cons.1 hstart).1

theorem rebase_eq (hu : IsPlain u) (hw : IsPlain w) (t : Text) :
    rebase u w t = Text.replace u w t := by
  simp [rebase, hu.ne_nil, hw.ne_nil]

theorem replace_slashes (h : IsPlain u) (w : Text) (n : Nat) (t : Text) :
    Text.replace u w (List.replicate n '/' ++ t) = List.replicate n '/' ++ Text.replace u w t := by
  induction n with
  | zero => rfl
  | succ n ih =>
    rw [List.replicate_succ, List.cons_append, Text.replace_cons (h.not_prefix_slash _), ih,
      List.cons_append]

theorem head?_replace_ne (hu : IsPlain u) (hw : IsPlain w) (he : e.head? ≠ some '/') :
    (Text.replace u w e).head? ≠ some '/' := by
  by_cases hstart : u <+: e
  · obtain ⟨r, rfl⟩ := hstart
    obtain ⟨c, s, rfl, hc, -⟩ := hw.exists_cons
    rw [Text.replace_append_left hu.ne_nil]
    simpa using hc
  · cases e with
    | nil => simp
    | cons d r =>
      rw [Text.replace_cons hstart]
      simpa using he

/-- Where an address that ends in a slash at most is joined with what does not begin with one,
another one is put in its place as if that were joined with it, if it ends in as many slashes and
the address is not found again. -/
theorem replace_join_iff (hu : IsPlain u) (hw : IsPlain w) (he : e.head? ≠ some '/')
    (h : slashes u ≤ 1) :
    Text.replace u w (stem u ++ '/' :: e) = stem w ++ '/' :: e ↔
      slashes w = slashes u ∧ (u = w ∨ ¬ u <:+: e) := by
  have hsplit : stem u ++ '/' :: e = u ++ (List.replicate (1 - slashes u) '/' ++ e) :=
    calc stem u ++ '/' :: e
      _ = stem u ++ (List.replicate (slashes u + (1 - slashes u)) '/' ++ e) := by
        rw [Nat.add_sub_cancel' h]
        rfl
      _ = stem u ++ List.replicate (slashes u) '/' ++
          (List.replicate (1 - slashes u) '/' ++ e) := by
        simp only [← List.replicate_append_replicate, List.append_assoc]
      _ = u ++ (List.replicate (1 - slashes u) '/' ++ e) := by rw [stem_append_slashes]
  have hjoined : Text.replace u w (stem u ++ '/' :: e) =
      stem w ++ (List.replicate (slashes w + (1 - slashes u)) '/' ++ Text.replace u w e) :=
    calc Text.replace u w (stem u ++ '/' :: e)
      _ = w ++ (List.replicate (1 - slashes u) '/' ++ Text.replace u w e) := by
        rw [hsplit, Text.replace_append_left hu.ne_nil, hu.replace_slashes]
      _ = stem w ++ List.replicate (slashes w) '/' ++
          (List.replicate (1 - slashes u) '/' ++ Text.replace u w e) := by
        rw [stem_append_slashes]
      _ = stem w ++ (List.replicate (slashes w + (1 - slashes u)) '/' ++ Text.replace u w e) := by
        simp only [← List.replicate_append_replicate, List.append_assoc]
  have hone : '/' :: e = List.replicate 1 '/' ++ e := rfl
  rw [hjoined, hone, List.append_right_inj,
    Text.replicate_append_inj (hu.head?_replace_ne hw he) he, Text.replace_eq_self_iff hu.ne_nil]
  have hcount : slashes w + (1 - slashes u) = 1 ↔ slashes w = slashes u := by omega
  rw [hcount]

end IsPlain

end Address

/-- A statement that visits an address: the literal of the address in its quotes, and what stands
before and after it. -/
structure Visit where
  before : Text
  quote : Char
  after : Text
  quotes : quote = '\"' ∨ quote = '\''
  colon_before : ':' ∉ before
  colon_after : ':' ∉ after

namespace Visit

variable {v : Visit} {u w t : Text}

def code (v : Visit) (address : Text) : Text :=
  v.before ++ Literal.written v.quote address ++ v.after

theorem code_eq (v : Visit) (address : Text) : v.code address =
    v.before ++ v.quote :: (Literal.escape v.quote address ++ v.quote :: v.after) := by
  simp [code, Literal.written]

theorem not_mem_quote (v : Visit) (hu : Address.IsPlain u) : v.quote ∉ u := by
  intro hmem
  have hplain := hu.literal v.quote hmem
  rcases v.quotes with h | h
  all_goals
    rw [h] at hplain
    exact absurd hplain (by decide)

theorem replace_code (v : Visit) (hu : Address.IsPlain u) (w t : Text) :
    Text.replace u w (v.code t) = v.before ++
      v.quote :: (Text.replace u w (Literal.escape v.quote t) ++ v.quote :: v.after) := by
  have hquote := v.not_mem_quote hu
  rw [code_eq, Text.replace_append_cons hu.ne_nil hquote, Text.replace_append_cons hu.ne_nil hquote,
    Text.replace_of_not_infix (hu.not_infix v.colon_before),
    Text.replace_of_not_infix (hu.not_infix v.colon_after)]

theorem replace_code_eq_iff (v : Visit) (hu : Address.IsPlain u) (w s t : Text) :
    Text.replace u w (v.code s) = v.code t ↔
      Text.replace u w (Literal.escape v.quote s) = Literal.escape v.quote t := by
  rw [v.replace_code hu, code_eq, List.append_right_inj, List.cons_inj_right, List.append_left_inj]

theorem code_inj (v : Visit) {s t : Text} :
    v.code s = v.code t ↔ Literal.escape v.quote s = Literal.escape v.quote t := by
  rw [code_eq, code_eq, List.append_right_inj, List.cons_inj_right, List.append_left_inj]

theorem escape_complete (v : Visit) (hu : Address.IsPlain u) (ht : Address.isAbsolute t = false)
    (hne : t ≠ []) : Literal.escape v.quote (Address.complete t u) =
      Address.stem u ++ '/' :: Literal.escape v.quote (t.dropWhile (· = '/')) := by
  have hstem : ∀ c ∈ Address.stem u, Literal.isPlain c = true :=
    fun c hc => hu.literal c (Text.mem_of_mem_dropEndWhile hc)
  have hslash : Literal.escape v.quote ['/'] = ['/'] :=
    Literal.escape_of_isPlain v.quotes (List.forall_mem_singleton.2 (by decide))
  rw [Address.complete, if_neg (by simp [ht, hu.ne_nil]), if_neg hne, Address.attach]
  show Literal.escape v.quote (Address.stem u ++ ['/'] ++ _) = _
  rw [Literal.escape_append, Literal.escape_append, Literal.escape_of_isPlain v.quotes hstem,
    hslash, List.append_assoc, List.singleton_append]

end Visit

def Visit.IsOf (v : Visit) (d : Dialect) : Prop := ∀ c p, d.step .visit c p = (do
  let url ← Literal.ofValue v.quote (← Address.resolve c.target p.url)
  .ok (v.before ++ url ++ v.after))

theorem Builtin.exists_visit {b : Builtin} (hb : b ∈ all) : ∃ v : Visit, v.IsOf b.dialect := by
  simp only [all, List.mem_cons, List.not_mem_nil, or_false] at hb
  rcases hb with rfl | rfl | rfl
  · exact ⟨⟨JUnit.pad ++ "driver.get(", '\"', ");", .inl rfl, by decide, by decide⟩,
      fun c p => rfl⟩
  · exact ⟨⟨Pytest.pad ++ "self.driver.get(", '\"', ")", .inl rfl, by decide, by decide⟩,
      fun c p => rfl⟩
  · exact ⟨⟨Playwright.pad ++ "await page.goto(", Playwright.quote, ");", .inr rfl, by decide,
      by decide⟩, fun c p => rfl⟩

theorem Visit.IsOf.translate {v : Visit} {d : Dialect} (h : v.IsOf d) {c : Command} {p : Project}
    {t u : Text} (hname : c.name = .text "open") (htarget : c.target = .text t)
    (hurl : p.url = .text u) :
    d.translate c p = .ok (some (v.code (Address.complete t u))) := by
  have hopen : Verb.ofValue? (.text "open") = some .visit := by decide +kernel
  simp only [Dialect.translate, hname, hopen, h c p, htarget, hurl, Address.resolve_text, bind,
    Except.bind, Literal.ofValue_text]
  rfl

namespace Address

/-- What becomes of an override in the code that opens a relative target, in every built-in format.
With no target, it is the code for a project that was recorded at the other address. With a target,
and a recorded address that ends in a slash at most, it is that exactly if the other address ends in
as many slashes and the recorded one is not found in the rest of the literal. And if the recorded
address is not found at all, which takes one that ends in two slashes or more, the override does
nothing. -/
theorem override_eq_recorded {b : Builtin} (hb : b ∈ Builtin.all) {u w t : Text} (hu : IsPlain u)
    (hw : IsPlain w) (ht : isAbsolute t = false) {c : Command} (hname : c.name = .text "open")
    (htarget : c.target = .text t) {p q : Project} (hp : p.url = .text u) (hq : q.url = .text w) :
    ∃ (v : Visit) (recorded wanted : Text),
      b.dialect.translate c p = .ok (some recorded) ∧ recorded = v.code (complete t u) ∧
      b.dialect.translate c q = .ok (some wanted) ∧ wanted = v.code (complete t w) ∧
      (t = [] → override p.url w recorded = .ok wanted) ∧
      (t ≠ [] → slashes u ≤ 1 → (override p.url w recorded = .ok wanted ↔
        slashes w = slashes u ∧
          (u = w ∨ ¬ u <:+: Literal.escape v.quote (t.dropWhile (· = '/'))))) ∧
      (t ≠ [] → ¬ u <:+: recorded → override p.url w recorded = .ok recorded ∧
        (recorded = wanted ↔ stem u = stem w)) := by
  obtain ⟨v, hv⟩ := Builtin.exists_visit hb
  have hoverride : ∀ code : Text, override p.url w code =
      .ok (RawText.ofText (Text.replace u w code)) := fun code => by
    rw [hp, override_text, hu.rebase_eq hw]
  refine ⟨v, _, _, hv.translate hname htarget hp, rfl, hv.translate hname htarget hq, rfl, ?_⟩
  simp only [hoverride, Except.ok.injEq, RawText.ofText_inj]
  refine ⟨fun hempty => ?_, fun hne hslashes => ?_, fun hne hmissing => ⟨?_, ?_⟩⟩
  · have hcomplete : ∀ {a}, IsPlain a → Literal.escape v.quote (complete t a) = a := fun ha => by
      rw [complete, if_neg (by simp [ht, ha.ne_nil]), if_pos hempty,
        Literal.escape_of_isPlain v.quotes ha.literal]
    rw [v.replace_code_eq_iff hu, hcomplete hu, hcomplete hw]
    simpa using Text.replace_append_left hu.ne_nil w []
  · have hhead : (t.dropWhile (· = '/')).head? ≠ some '/' := fun h => by
      have hnot := List.head?_dropWhile_not (fun c : Char => decide (c = '/')) t
      rw [h] at hnot
      simp at hnot
    rw [v.replace_code_eq_iff hu, v.escape_complete hu ht hne, v.escape_complete hw ht hne]
    exact hu.replace_join_iff hw (Literal.head?_escape_ne (by decide) hhead) hslashes
  · exact Text.replace_of_not_infix hmissing w
  · rw [v.code_inj, v.escape_complete hu ht hne, v.escape_complete hw ht hne, List.append_left_inj]

/-- Two addresses with a slash at their ends, and a target with slashes before it that has a third
address in it. -/
theorem override_eq_recorded_of_slashes :
    let b : Builtin := ⟨"java-selenium", "side_export.export.templates.java_selenium",
      JUnit.dialect⟩
    let u : Text := "http://a.example/"
    let w : Text := "https://b.example:8080/"
    let t : Text := "//login?next=http://a.example"
    let c : Command := { name := .text "open", target := .text t }
    let p : Project := { url := .text u }
    let q : Project := { url := .text w }
    b ∈ Builtin.all ∧ IsPlain u ∧ IsPlain w ∧ isAbsolute t = false ∧
      (t ≠ [] ∧ slashes u ≤ 1 ∧ slashes w = slashes u) ∧
      ∃ (v : Visit) (recorded wanted : Text),
        b.dialect.translate c p = .ok (some recorded) ∧ recorded = v.code (complete t u) ∧
        b.dialect.translate c q = .ok (some wanted) ∧ wanted = v.code (complete t w) ∧
        (t = [] → override p.url w recorded = .ok wanted) ∧
        (t ≠ [] → slashes u ≤ 1 → (override p.url w recorded = .ok wanted ↔
          slashes w = slashes u ∧
            (u = w ∨ ¬ u <:+: Literal.escape v.quote (t.dropWhile (· = '/'))))) ∧
        (t ≠ [] → ¬ u <:+: recorded → override p.url w recorded = .ok recorded ∧
          (recorded = wanted ↔ stem u = stem w)) := by
  intro b u w t c p q
  have hb : b ∈ Builtin.all := by simp [b, Builtin.all]
  have hu : IsPlain u := by decide
  have hw : IsPlain w := by decide
  have ht : isAbsolute t = false := by decide
  exact ⟨hb, hu, hw, ht, by decide, override_eq_recorded hb hu hw ht rfl rfl rfl rfl⟩

/-- The code that opens a target in a project that was recorded at an address. -/
def opened (b : Builtin) (t u : Text) : Option Text :=
  (b.dialect.translate { name := .text "open", target := .text t }
    { url := .text u }).toOption.join

/-- Recorded addresses, other ones and targets, where the recorded address is not in the target, and
in all formats the override does not give the code of a project recorded at the other address: the
slash between address and target is lost; an address that ends in two slashes is not found; and a
line feed in a target makes the recorded address appear in its literal. -/
theorem override_ne_recorded :
    let inputs : List (Text × Text × Text) := [
      ("http://a.example/", "http://b.example", "login"),
      ("http://a.example//", "http://b.example", "login"),
      ("news://a", "news://b", "\news://a")]
    (inputs.all fun (u, w, t) =>
      decide (IsPlain u ∧ IsPlain w ∧ isAbsolute t = false ∧ ¬ u <:+: t) &&
        Builtin.all.all fun b => (opened b t u).isSome &&
          (opened b t u).bind (fun code => (override (.text u) w code).toOption) !=
            opened b t w) = true := by
  decide +kernel

end Address

end TestScribe
