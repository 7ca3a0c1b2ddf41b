/-!
Text as a list of characters, so that everything said about generated files can be said by
induction. A string literal is read as the list of its characters. `split` cuts at a character,
`pieces` at the leftmost occurrences of a longer mark that do not overlap; both are undone by
putting the mark back between the parts (`join_split`, `join_piecesFrom`).
-/

namespace TestScribe

abbrev Text := List Char

instance : Coe String Text := ⟨String.toList⟩

namespace Text

section

variable {α : Type}

/-- Puts `mark` between neighbouring parts. -/
def join (mark : List α) : List (List α) → List α
  | [] => []
  | [p] => p
  | p :: q :: ps => p ++ mark ++ join mark (q :: ps)

@[simp] theorem join_nil (mark : List α) : join mark [] = [] := rfl
@[simp] theorem join_singleton (mark p : List α) : join mark [p] = p := rfl
theorem join_cons_of_ne_nil (mark p : List α) {ps : List (List α)} (h : ps ≠ []) :
    join mark (p :: ps) = p ++ mark ++ join mark ps := by
  cases ps with
  | nil => exact absurd rfl h
  | cons q qs => rfl
theorem join_modifyHead (mark : List α) (c : α) {ps : List (List α)} (h : ps ≠ []) :
    join mark (ps.modifyHead (c :: ·)) = c :: join mark ps := by
  match ps, h with
  | [p], _ => rfl
  | p :: q :: qs, _ => rfl

variable [DecidableEq α]

def split (mark : α) : List α → List (List α)
  | [] => [[]]
  | c :: r => if c = mark then [] :: split mark r else (split mark r).modifyHead (c :: ·)

theorem split_ne_nil (mark : α) (t : List α) : split mark t ≠ [] := by
  cases t with
  | nil => simp [split]
  | cons c r =>
    by_cases h : c = mark
    · simp [split, h]
    · have := split_ne_nil mark r
      simpa [split, h, List.modifyHead_eq_nil_iff] using this

theorem join_split (mark : α) (t : List α) : join [mark] (split mark t) = t := by
  induction t with
  | nil => rfl
  | cons c r ih =>
    by_cases h : c = mark
    · simp [split, h, join_cons_of_ne_nil _ _ (split_ne_nil mark r), ih]
    · simp [split, h, join_modifyHead _ _ (split_ne_nil mark r), ih]

end

/-- The lines of a text: there is one more of them than there are line feeds. -/
def lines (t : Text) : List Text := split '\n' t

def unlines (ls : List Text) : Text := join ['\n'] ls

@[simp] theorem unlines_lines (t : Text) : unlines (lines t) = t := join_split '\n' t

def cut? (mark : Char) : Text → Option (Text × Text)
  | [] => none
  | c :: r => if c = mark then some ([], r) else (cut? mark r).map fun (p, q) => (c :: p, q)

section

variable {α : Type} [DecidableEq α]

/-- The parts between the occurrences of `mark`, where the first `skipped` characters belong to an
occurrence that has already been counted. -/
def piecesFrom (mark : List α) : Nat → List α → List (List α)
  | _, [] => [[]]
  | skipped + 1, _ :: r => piecesFrom mark skipped r
  | 0, c :: r =>
    if mark.isPrefixOf (c :: r) then [] :: piecesFrom mark (mark.length - 1) r
    else (piecesFrom mark 0 r).modifyHead (c :: ·)

/-- The parts between the occurrences of `mark` that are found from the left without overlap. -/
def pieces (mark t : List α) : List (List α) := piecesFrom mark 0 t

theorem piecesFrom_ne_nil (mark : List α) (k : Nat) (t : List α) : piecesFrom mark k t ≠ [] := by
  induction t generalizing k with
  | nil => simp [piecesFrom]
  | cons c r ih =>
    cases k with
    | succ k => exact ih k
    | zero =>
      by_cases h : mark.isPrefixOf (c :: r)
      · simp [piecesFrom, h]
      · simpa [piecesFrom, h, List.modifyHead_eq_nil_iff] using ih 0

theorem join_piecesFrom {mark : List α} (hm : mark ≠ []) (k : Nat) (t : List α) :
    join mark (piecesFrom mark k t) = t.drop k := by
  induction t generalizing k with
  | nil => simp [piecesFrom]
  | cons c r ih =>
    cases k with
    | succ k => simpa [piecesFrom] using ih k
    | zero =>
      by_cases h : mark.isPrefixOf (c :: r)
      · have hp := List.isPrefixOf_iff_prefix.1 h
        obtain ⟨rest, hrest⟩ := hp
        obtain ⟨m, ms, rfl⟩ := List.exists_cons_of_ne_nil hm
        simp only [List.cons_append, List.cons.injEq] at hrest
        obtain ⟨rfl, rfl⟩ := hrest
        simp [piecesFrom, h, join_cons_of_ne_nil _ _ (piecesFrom_ne_nil _ _ _), ih]
      · simp [piecesFrom, h, join_modifyHead _ _ (piecesFrom_ne_nil _ _ _), ih]

theorem join_pieces {mark : List α} (hm : mark ≠ []) (t : List α) :
    join mark (pieces mark t) = t := by
  simpa [pieces] using join_piecesFrom hm 0 t

/-- Puts `new` where `old` stood; what has been put in is not searched again. -/
def replace (old new t : List α) : List α := join new (pieces old t)

theorem replace_self {old : List α} (h : old ≠ []) (t : List α) : replace old old t = t :=
  join_pieces h t

end

def dropEndWhile {α : Type} (p : α → Bool) : List α → List α
  | [] => []
  | c :: r =>
    match dropEndWhile p r with
    | [] => if p c then [] else [c]
    | d :: s => c :: d :: s

theorem dropEndWhile_eq_nil_iff {α : Type} {p : α → Bool} {t : List α} :
    dropEndWhile p t = [] ↔ ∀ c ∈ t, p c = true := by
  induction t with
  | nil => simp [dropEndWhile]
  | cons c r ih =>
    cases h : dropEndWhile p r with
    | nil =>
      rw [h] at ih
      by_cases hc : p c <;> simp_all [dropEndWhile]
    | cons d s =>
      rw [h] at ih
      simp only [dropEndWhile, h]
      simpa using fun _ => by simpa using ih

theorem getLast?_dropEndWhile {α : Type} {p : α → Bool} {t : List α} {c : α}
    (h : (dropEndWhile p t).getLast? = some c) : p c = false := by
  induction t with
  | nil => simp [dropEndWhile] at h
  | cons d r ih =>
    cases hr : dropEndWhile p r with
    | nil =>
      by_cases hd : p d
      · simp [dropEndWhile, hr, hd] at h
      · simp only [dropEndWhile, hr, hd, Bool.false_eq_true, if_false, List.getLast?_singleton,
          Option.some.injEq] at h
        simpa [← h] using hd
    | cons e s =>
      apply ih
      simpa [dropEndWhile, hr] using h

def dropAroundWhile (p : Char → Bool) (t : Text) : Text := dropEndWhile p (t.dropWhile p)

/-- The maximal runs of characters outside a class. -/
def fieldsBy (p : Char → Bool) : Text → List Text
  | [] => []
  | c :: r =>
    if p c then fieldsBy p r
    else
      match r with
      | [] => [[c]]
      | d :: _ => if p d then [c] :: fieldsBy p r else (fieldsBy p r).modifyHead (c :: ·)

/-- Order by code points, a text before its continuations. -/
def le : Text → Text → Bool
  | [], _ => true
  | _ :: _, [] => false
  | c :: r, d :: s => if c = d then le r s else c.toNat < d.toNat

end Text

end TestScribe
