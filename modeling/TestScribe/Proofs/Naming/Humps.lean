import TestScribe.Proofs.Naming.Letters
import TestScribe.Proofs.Text.Fields

/-!
What a `camelCase` name tells of its title. A capital in the name is a letter that begins a run of
letters in a word after the first one, and every letter or digit of the title is there in its place;
which of them were capitals, and where a word ended before a digit, cannot be told any more
(`camel_eq_camel_iff`).
-/

namespace TestScribe.Naming

/-- The letters and digits of a word in small letters, each with whether it begins a run of
letters. -/
def runStarts (inRun : Bool) : Text → List (Char × Bool)
  | [] => []
  | c :: r => (c.toLower, c.isAlpha && !inRun) :: runStarts c.isAlpha r

/-- The letters and digits of a title in small letters, each with whether it begins a run of letters
in a word after the first one. A title without any is called `test`. -/
def humps (title : Text) : List (Char × Bool) :=
  match plainWords title with
  | [] => ("test" : Text).map fun c => (c, false)
  | w :: ws => (w.map fun c => (c.toLower, false)) ++ ws.flatMap (runStarts false)

def readHump (c : Char) : Char × Bool := (c.toLower, isUpper c)

variable {a b w : Text} {c : Char}

theorem readHump_injective : Function.Injective readHump := by
  intro c d h
  obtain ⟨hlower, hupper⟩ := Prod.mk.inj h
  cases hc : isUpper c with
  | false =>
    rw [hc] at hupper
    rwa [toLower_of_not_isUpper hc, toLower_of_not_isUpper hupper.symm] at hlower
  | true =>
    have hback : ∀ {e : Char}, isUpper e = true → e.toLower.toUpper = e := fun he =>
      forall_of_isPlain (P := fun e => isUpper e = true → e.toLower.toUpper = e)
        (by decide) (isPlain_of_isUpper he) he
    rw [← hback hc, hlower, hback (hupper ▸ hc)]

theorem readHump_toLower (h : isPlain c = true) : readHump c.toLower = (c.toLower, false) :=
  forall_of_isPlain (P := fun c => readHump c.toLower = (c.toLower, false)) (by decide) h

theorem readHump_toUpper (h : isPlain c = true) (hc : c.isAlpha = true) :
    readHump c.toUpper = (c.toLower, true) :=
  forall_of_isPlain (P := fun c => c.isAlpha = true → readHump c.toUpper = (c.toLower, true))
    (by decide) h hc

theorem readHump_of_not_isAlpha (h : isPlain c = true) (hc : c.isAlpha = false) :
    readHump c = (c.toLower, false) :=
  forall_of_isPlain (P := fun c => c.isAlpha = false → readHump c = (c.toLower, false))
    (by decide) h hc

theorem map_readHump_titleAfter (inRun : Bool) (h : ∀ c ∈ w, isPlain c = true) :
    (Text.titleAfter inRun w).map readHump = runStarts inRun w := by
  induction w generalizing inRun with
  | nil => rfl
  | cons c r ih =>
    obtain ⟨hplain, hr⟩ := List.forall_mem_cons.1 h
    rw [Text.titleAfter, runStarts]
    cases hc : c.isAlpha with
    | false =>
      rw [if_neg Bool.false_ne_true, List.map_cons, ih false hr, readHump_of_not_isAlpha hplain hc]
      rfl
    | true =>
      rw [if_pos rfl, List.map_cons, ih true hr]
      cases inRun with
      | false => rw [if_neg Bool.false_ne_true, readHump_toUpper hplain hc]; rfl
      | true => rw [if_pos rfl, readHump_toLower hplain]; rfl

theorem isPlain_of_mem_plainWords {title : Text} (h : w ∈ plainWords title) :
    ∀ c ∈ w, isPlain c = true := by
  intro c hc
  cases hplain : isPlain c with
  | true => rfl
  | false => exact absurd hc (Text.not_mem_of_mem_fieldsBy (by rw [hplain]; rfl) h)

theorem map_readHump_flatMap_title {ws : List Text} (h : ∀ w ∈ ws, ∀ c ∈ w, isPlain c = true) :
    (ws.map Text.title).flatten.map readHump = ws.flatMap (runStarts false) := by
  induction ws with
  | nil => rfl
  | cons w ws ih =>
    obtain ⟨hw, hws⟩ := List.forall_mem_cons.1 h
    rw [List.map_cons, List.flatten_cons, List.map_append, ih hws, Text.title,
      map_readHump_titleAfter false hw, List.flatMap_cons]

theorem map_readHump_camel (title : Text) : (camel title).map readHump = humps title := by
  have hplain : ∀ w ∈ plainWords title, ∀ c ∈ w, isPlain c = true :=
    fun w => isPlain_of_mem_plainWords
  unfold camel humps
  cases hwords : plainWords title with
  | nil => rfl
  | cons w ws =>
    rw [hwords] at hplain
    obtain ⟨hw, hws⟩ := List.forall_mem_cons.1 hplain
    rw [List.map_append, map_readHump_flatMap_title hws, List.map_map]
    exact congrArg (· ++ ws.flatMap (runStarts false))
      (List.map_congr_left fun c hc => readHump_toLower (hw c hc))

/-- Titles have the same name exactly if they have the same letters and digits in the same order,
and the same of these begin runs of letters in later words. -/
theorem camel_eq_camel_iff : camel a = camel b ↔ humps a = humps b := by
  rw [← map_readHump_camel, ← map_readHump_camel]
  exact (List.map_inj_right fun _ _ h => readHump_injective h).symm

end TestScribe.Naming
