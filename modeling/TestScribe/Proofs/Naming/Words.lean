import TestScribe.Proofs.Naming.Letters
import TestScribe.Proofs.Text.Fields
import TestScribe.Proofs.Text.Lines

/-!
The words of a title in its `snake_case` name. A word is a run of letters and digits, and a capital
starts a new one behind a small letter or digit, and before a small letter. The name is the words in
small letters with underscores between them (`snake_eq_join`), so it tells which words they were
(`snake_eq_snake_iff`).
-/

namespace TestScribe.Naming

def startsUpper : Text → Bool
  | u :: _ => isUpper u
  | [] => false

/-- Puts an underscore before each capital that starts a word. -/
def breakWords : Text → Text
  | [] => []
  | c :: r =>
    if (isLower c || isDigit c) && startsUpper r || c ≠ '\n' && startsRun r then
      c :: '_' :: breakWords r
    else c :: breakWords r

/-- The runs of letters and digits of a title, each cut into words, in small letters. -/
def caseWords (title : Text) : List Text :=
  (Text.fieldsBy (fun c => !isPlain c) (breakWords title)).map (List.map Char.toLower)

/-- The words of a name; a title without letters and digits is called `test`. -/
def snakeWords (title : Text) : List Text :=
  match caseWords title with
  | [] => ["test"]
  | ws => ws

variable {c : Char} {r t : Text} {place : RunPlace}

theorem startsUpper_of_startsRun (h : startsRun t = true) : startsUpper t = true := by
  unfold startsRun at h
  split at h
  · exact (Bool.and_eq_true _ _ ▸ h).1
  · cases h

theorem isUpper_of_startsRun (h : startsRun (c :: t) = true) :
    isUpper c = true ∧ startsUpper t = false := by
  cases t with
  | nil => cases h
  | cons l r =>
    obtain ⟨hc, hl⟩ := Bool.and_eq_true_iff.1 h
    refine ⟨hc, Bool.eq_false_iff.2 fun hupper => ?_⟩
    rw [isLower_eq_false_of_isUpper hupper] at hl
    cases hl

theorem startsUpper_breakRuns (place : RunPlace) (t : Text) :
    startsUpper (breakRuns place t) = startsUpper t := by
  cases t with
  | nil => rfl
  | cons c r =>
    unfold breakRuns
    split
    · rfl
    · split
      · rfl
      · split <;> rfl

theorem breakHumps_cons (c : Char) (t : Text) : breakHumps (c :: t) =
    if (isLower c || isDigit c) && startsUpper t then c :: '_' :: breakHumps t
    else c :: breakHumps t := by
  cases t with
  | nil => simp [breakHumps, startsUpper]
  | cons u r => rfl

theorem breakHumps_cons_underscore (c : Char) (t : Text) :
    breakHumps (c :: '_' :: t) = c :: '_' :: breakHumps t := by
  have hunderscore : isLower '_' = false ∧ isDigit '_' = false ∧ isUpper '_' = false := by decide
  simp [breakHumps_cons, startsUpper, hunderscore]

/-- The two passes over a title, one for capitals before small letters and one for capitals behind
them, come to one pass. -/
theorem breakHumps_breakRuns (hplace : place = .capital → startsRun t = true) :
    breakHumps (breakRuns place t) = breakWords t := by
  induction t generalizing place with
  | nil => rfl
  | cons c r ih =>
    have hrun : startsUpper r = false → startsRun r = false := fun h =>
      Bool.eq_false_iff.2 fun hr => by rw [startsUpper_of_startsRun hr] at h; cases h
    have hlater (q : RunPlace) (hq : q ≠ .capital) : breakHumps (breakRuns q r) = breakWords r :=
      ih fun h => absurd h hq
    by_cases hcapital : place = .capital
    · -- behind the capital of a run there is a small letter
      obtain ⟨hc, hr⟩ := isUpper_of_startsRun (hplace hcapital)
      rw [breakRuns, if_pos hcapital, breakHumps_cons, startsUpper_breakRuns,
        hlater .inside nofun, breakWords, hr, hrun hr]
      simp
    by_cases hinside : (place = .inside && isLower c) = true
    · -- a capital behind a run is left to the second pass
      obtain ⟨-, hc⟩ := Bool.and_eq_true_iff.1 hinside
      rw [breakRuns, if_neg hcapital, if_pos hinside, breakHumps_cons, startsUpper_breakRuns,
        hlater .inside nofun, breakWords, hc]
      cases hr : startsUpper r with
      | false => simp [hrun hr]
      | true => simp
    rw [breakRuns, if_neg hcapital, if_neg hinside, breakWords]
    split
    · rename_i hstarts
      obtain ⟨-, hr⟩ := Bool.and_eq_true_iff.1 hstarts
      rw [breakHumps_cons_underscore, ih fun _ => hr, hstarts]
      simp
    · rename_i hstarts
      rw [breakHumps_cons, startsUpper_breakRuns, hlater .outside nofun,
        Bool.eq_false_iff.2 hstarts]
      simp

def isUnderscore (c : Char) : Bool := c = '_'

def parts (t : Text) : List Text := Text.fieldsBy isUnderscore t

/-- The underscore that is left before the parts of a text that begins with one. -/
def lead (t : Text) : Text := if t.head? = some '_' ∧ parts t ≠ [] then ['_'] else []

theorem lead_cons_of_ne (h : c ≠ '_') (t : Text) : lead (c :: t) = [] := by
  simp [lead, h]

theorem parts_underscore_cons (t : Text) : parts ('_' :: t) = parts t :=
  Text.fieldsBy_cons_of_pos (by decide) t

theorem join_parts_eq_nil_iff : Text.join ['_'] (parts t) = [] ↔ parts t = [] :=
  Text.join_eq_nil_iff fun _ => fieldsBy_ne_nil

theorem join_parts_cons (h : c ≠ '_') (t : Text) :
    Text.join ['_'] (parts (c :: t)) = c :: (lead t ++ Text.join ['_'] (parts t)) := by
  have hc : isUnderscore c = false := decide_eq_false h
  cases t with
  | nil => simp [parts, Text.fieldsBy, hc, lead]
  | cons d t =>
    by_cases hd : d = '_'
    · subst hd
      have heq : parts (c :: '_' :: t) = [c] :: parts ('_' :: t) :=
        Text.fieldsBy_cons_cons_of_pos hc (by decide) t
      rw [heq, lead]
      by_cases hnone : parts ('_' :: t) = []
      · simp [hnone]
      · rw [Text.join_cons_of_ne_nil _ _ hnone]
        simp [hnone]
    · have hd' : isUnderscore d = false := decide_eq_false hd
      have heq : parts (c :: d :: t) = (parts (d :: t)).modifyHead (c :: ·) :=
        Text.fieldsBy_cons_cons hc hd' t
      have hsome : parts (d :: t) ≠ [] := Text.fieldsBy_cons_ne_nil hd' t
      rw [heq, lead_cons_of_ne hd, List.nil_append, Text.join_modifyHead _ _ hsome]

theorem dropEndWhile_squeeze (t : Text) :
    Text.dropEndWhile isUnderscore (squeeze t) = lead t ++ Text.join ['_'] (parts t) := by
  fun_induction squeeze t with
  | case1 r ih =>
    rw [ih, lead, lead, parts_underscore_cons ('_' :: r)]
    rfl
  | case2 c r hne ih =>
    by_cases hc : c = '_'
    · subst hc
      have hlead : lead r = [] := by
        cases r with
        | nil => rfl
        | cons d r => exact lead_cons_of_ne (fun hd => hne r rfl (by rw [hd])) r
      rw [hlead, List.nil_append] at ih
      rw [Text.dropEndWhile, ih, lead, parts_underscore_cons]
      by_cases hnone : parts r = []
      · simp [hnone, isUnderscore]
      · obtain ⟨d, s, hjoin⟩ := List.exists_cons_of_ne_nil (mt join_parts_eq_nil_iff.1 hnone)
        simp [hnone, hjoin]
    · have hkeeps : isUnderscore c = false := decide_eq_false hc
      rw [Text.dropEndWhile_cons_of_neg hkeeps, ih, lead_cons_of_ne hc, List.nil_append,
        join_parts_cons hc]
  | case3 => rfl

theorem dropAroundWhile_squeeze (t : Text) :
    Text.dropAroundWhile isUnderscore (squeeze t) = Text.join ['_'] (parts t) := by
  rw [Text.dropAroundWhile, Text.dropEndWhile_dropWhile, dropEndWhile_squeeze]
  cases hparts : parts t with
  | nil => simp [lead, hparts]
  | cons w ws =>
    have hw : w ∈ parts t := hparts ▸ List.mem_cons_self
    obtain ⟨c, r, rfl⟩ := List.exists_cons_of_ne_nil (fieldsBy_ne_nil hw)
    have hc : isUnderscore c = false := Bool.eq_false_iff.2 fun hc =>
      Text.not_mem_of_mem_fieldsBy hc hw List.mem_cons_self
    obtain ⟨s, hjoin⟩ : ∃ s, Text.join ['_'] ((c :: r) :: ws) = c :: s := by
      cases ws <;> exact ⟨_, rfl⟩
    have hdrop : (c :: s).dropWhile isUnderscore = c :: s :=
      List.dropWhile_cons_of_neg (by rw [hc]; exact Bool.false_ne_true)
    rw [hjoin, lead]
    split
    · exact hdrop
    · exact hdrop

theorem isUnderscore_toLower (c : Char) : isUnderscore c.toLower = isUnderscore c := by
  by_cases hc : c = '_'
  · rw [hc]
    rfl
  · have hlower : c.toLower ≠ '_' := mt (eq_of_toLower_eq (by decide)) hc
    simp [isUnderscore, hc, hlower]

def plainOrUnderscore (c : Char) : Char := if isPlain c then c else '_'

theorem isUnderscore_plainOrUnderscore (c : Char) :
    isUnderscore (plainOrUnderscore c) = !isPlain c := by
  unfold plainOrUnderscore
  split
  · rename_i hc
    have hne : c ≠ '_' := by
      rintro rfl
      cases hc
    simp [isUnderscore, hne, hc]
  · rename_i hc
    simp [isUnderscore, hc]

theorem parts_map_plainOrUnderscore (t : Text) :
    parts (t.map plainOrUnderscore) = Text.fieldsBy (fun c => !isPlain c) t := by
  rw [parts, Text.fieldsBy_map isUnderscore_plainOrUnderscore]
  have hkeeps : ∀ w ∈ Text.fieldsBy (fun c => !isPlain c) t, w.map plainOrUnderscore = w := by
    intro w hw
    refine (List.map_congr_left fun c hc => ?_).trans (List.map_id w)
    cases hplain : isPlain c with
    | true => exact if_pos hplain
    | false => exact absurd hc (Text.not_mem_of_mem_fieldsBy (by rw [hplain]; rfl) hw)
  exact (List.map_congr_left hkeeps).trans (List.map_id _)

/-- A `snake_case` name is the words of the title with underscores between them. -/
theorem snake_eq_join (title : Text) : snake title = Text.join ['_'] (snakeWords title) := by
  have hbroken : breakHumps (breakRuns .outside title) = breakWords title :=
    breakHumps_breakRuns nofun
  have hname : Text.dropAroundWhile (· = '_') ((squeeze ((breakWords title).map
      fun c => if isPlain c then c else '_')).map Char.toLower) =
      Text.join ['_'] (caseWords title) := by
    refine (Text.dropAroundWhile_map isUnderscore_toLower
      (squeeze ((breakWords title).map plainOrUnderscore))).trans ?_
    rw [dropAroundWhile_squeeze, parts_map_plainOrUnderscore, Text.map_join]
    rfl
  have hnone : Text.join ['_'] (caseWords title) = [] ↔ caseWords title = [] := by
    refine Text.join_eq_nil_iff fun w hw => ?_
    obtain ⟨v, hv, rfl⟩ := List.mem_map.1 hw
    exact mt List.map_eq_nil_iff.1 (fieldsBy_ne_nil hv)
  unfold snake snakeWords
  simp only [hbroken, hname]
  split
  · rename_i heq
    rw [hnone.1 heq]
    rfl
  · rename_i hne
    split
    · rename_i heq
      exact absurd (hnone.2 heq) hne
    · rfl

theorem mem_snakeWords {title w : Text} (h : w ∈ snakeWords title) :
    w ≠ [] ∧ ∀ c ∈ w, (isLower c || isDigit c) = true := by
  unfold snakeWords at h
  split at h
  · have hall : ("test" : Text).all (fun c => isLower c || isDigit c) = true := by decide
    rw [List.mem_singleton.1 h]
    exact ⟨by decide, List.all_eq_true.1 hall⟩
  · obtain ⟨v, hv, rfl⟩ := List.mem_map.1 h
    refine ⟨mt List.map_eq_nil_iff.1 (fieldsBy_ne_nil hv), fun c hc => ?_⟩
    obtain ⟨d, hd, rfl⟩ := List.mem_map.1 hc
    cases hplain : isPlain d with
    | true =>
      exact forall_of_isPlain (P := fun d => (isLower d.toLower || isDigit d.toLower) = true)
        (by decide) hplain
    | false => exact absurd hd (Text.not_mem_of_mem_fieldsBy (by rw [hplain]; rfl) hv)

theorem not_mem_of_mem_snakeWords {title w : Text} (h : w ∈ snakeWords title)
    (hc : (isLower c || isDigit c) = false) : c ∉ w := by
  intro hmem
  rw [(mem_snakeWords h).2 c hmem] at hc
  cases hc

theorem snakeWords_ne_nil (title : Text) : snakeWords title ≠ [] := by
  unfold snakeWords
  split
  · simp
  · rename_i hne
    exact hne

theorem kebab_eq_join (title : Text) : kebab title = Text.join ['-'] (snakeWords title) := by
  have hkeeps : ∀ w ∈ snakeWords title, w.map (fun c => if c = '_' then '-' else c) = w := by
    intro w hw
    refine (List.map_congr_left fun c hc => if_neg ?_).trans (List.map_id w)
    rintro rfl
    exact not_mem_of_mem_snakeWords hw (by decide) hc
  rw [kebab, snake_eq_join, Text.map_join, List.map_congr_left hkeeps, List.map_id']
  rfl

/-- Titles have the same name exactly if they have the same words. -/
theorem snake_eq_snake_iff {a b : Text} : snake a = snake b ↔ snakeWords a = snakeWords b := by
  have hsplit (title : Text) : Text.split '_' (snake title) = snakeWords title := by
    rw [snake_eq_join]
    exact Text.split_join_of_not_mem (snakeWords_ne_nil title)
      fun w hw => not_mem_of_mem_snakeWords hw (by decide)
  constructor
  · intro h
    rw [← hsplit a, h, hsplit b]
  · intro h
    rw [snake_eq_join, snake_eq_join, h]

end TestScribe.Naming
