import Mathlib.Data.List.Induction
import TestScribe.Proofs.Files.Growth

/-!
What writing comes to, told from the entries alone. The components of a directory are walked from
the root; a name that is too long or a file bars the way, and whatever is missing before that is
made (`madeWay`). Which of the two errors a barred way ends with depends on whether something is
missing on it: then the making stops at the bar, and otherwise the whole directory is refused at
once.
-/

namespace TestScribe

abbrev View := Location → Option Entry

namespace View

def isFile (v : View) (l : Location) : Bool :=
  match v l with
  | some (.file _) => true
  | _ => false

/-- The view in which missing entries have become directories at some locations. -/
def fill (v : View) (ls : List Location) : View := fun l =>
  if l ∈ ls then some ((v l).getD .directory) else v l

variable {v v' : View} {l : Location} {ls ls' : List Location}

theorem isFile_iff : v.isFile l = true ↔ ∃ c, v l = some (.file c) := by
  unfold isFile
  split
  · rename_i c hc
    simp [hc]
  · rename_i hne
    simpa using hne

theorem eq_directory (hf : v.isFile l = false) (hm : v l ≠ none) : v l = some .directory := by
  cases hl : v l with
  | none => exact absurd hl hm
  | some e =>
    cases e with
    | directory => rfl
    | file c => simp [isFile, hl] at hf

theorem fill_congr (h : v l = v' l) : v.fill ls l = v'.fill ls l := by
  unfold fill
  rw [h]

@[simp] theorem fill_nil (v : View) : v.fill [] = v := by
  funext l
  simp [fill]

theorem fill_of_mem (h : l ∈ ls) : v.fill ls l = some ((v l).getD .directory) := if_pos h

theorem fill_of_not_mem (h : l ∉ ls) : v.fill ls l = v l := if_neg h

@[simp] theorem isFile_fill (v : View) (ls : List Location) (l : Location) :
    (v.fill ls).isFile l = v.isFile l := by
  by_cases h : l ∈ ls
  · cases hl : v l <;> simp [isFile, fill_of_mem h, hl]
  · simp [isFile, fill_of_not_mem h]

theorem fill_eq_directory (hf : v.isFile l = false) (hm : l ∈ ls) :
    v.fill ls l = some .directory := by
  rw [fill_of_mem hm]
  cases hl : v l with
  | none => rfl
  | some e => rw [Option.getD_some, ← hl, eq_directory hf (by simp [hl])]

theorem fill_eq_self (h : ∀ l ∈ ls, v l ≠ none) : v.fill ls = v := by
  funext l
  by_cases hl : l ∈ ls
  · cases he : v l with
    | none => exact absurd he (h l hl)
    | some e => simp [fill_of_mem hl, he]
  · exact fill_of_not_mem hl

theorem fill_cons (hl : v l = none) (h : ∀ l ∈ ls, v l ≠ none) :
    v.fill (l :: ls) = fun k => if k = l then some .directory else v k := by
  funext k
  by_cases hk : k = l
  · rw [hk, fill_of_mem List.mem_cons_self, hl, if_pos rfl]
    rfl
  · rw [if_neg hk]
    have hself := congrFun (fill_eq_self h) k
    by_cases hm : k ∈ ls
    · rw [fill_of_mem hm] at hself
      rw [fill_of_mem (List.mem_cons_of_mem _ hm), hself]
    · exact fill_of_not_mem (by simp [hk, hm])

theorem fill_fill (h : ∀ l ∈ ls, l ∈ ls') : (v.fill ls).fill ls' = v.fill ls' := by
  funext l
  by_cases hl : l ∈ ls'
  · rw [fill_of_mem hl, fill_of_mem hl]
    by_cases hl' : l ∈ ls
    · rw [fill_of_mem hl']
      rfl
    · rw [fill_of_not_mem hl']
  · rw [fill_of_not_mem hl, fill_of_not_mem hl, fill_of_not_mem (mt (h l) hl)]

theorem fill_comm (v : View) (ls ls' : List Location) :
    (v.fill ls).fill ls' = (v.fill ls').fill ls := by
  funext l
  by_cases hl : l ∈ ls <;> by_cases hl' : l ∈ ls' <;> simp [fill, hl, hl']

end View

structure Walk where
  /-- The components walked so far. -/
  way : List Text := []
  /-- Where they lead. -/
  place : Location := []
  /-- Everything that was met on the way down. -/
  seen : List Location := []
  /-- What bars the way. -/
  bar : Option FileCause := none

namespace Walk

def advance (v : View) (k : Walk) (name : Text) : Walk :=
  if k.bar.isSome then k
  else if name = "..".toList then { k with way := k.way ++ [name], place := k.place.dropLast }
  else if FileTree.isTooLong name then
    { k with way := k.way ++ [name], bar := some .nameTooLong }
  else
    { way := k.way ++ [name]
      place := k.place ++ [name]
      seen := (k.place ++ [name]) :: k.seen
      bar := if v.isFile (k.place ++ [name]) then some .present else none }

/-- Whether something that was met is missing. -/
def lacks (v : View) (k : Walk) : Prop := ∃ l ∈ k.seen, v l = none

instance (v : View) (k : Walk) : Decidable (k.lacks v) :=
  decidable_of_iff (k.seen.any fun l => (v l).isNone) (by simp [lacks])

variable {v v' : View} {k : Walk} {name : Text} {l : Location}

theorem advance_of_bar (h : k.bar ≠ none) : k.advance v name = k :=
  if_pos (Option.isSome_iff_ne_none.2 h)

theorem advance_dots (h : k.bar = none) (hn : name = "..".toList) :
    k.advance v name = { k with way := k.way ++ [name], place := k.place.dropLast } := by
  rw [advance, h, if_neg (by simp), if_pos hn]

theorem advance_long (h : k.bar = none) (hn : name ≠ "..".toList)
    (hl : FileTree.isTooLong name = true) :
    k.advance v name = { k with way := k.way ++ [name], bar := some .nameTooLong } := by
  rw [advance, h, if_neg (by simp), if_neg hn, if_pos hl]

theorem advance_down (h : k.bar = none) (hn : name ≠ "..".toList)
    (hl : FileTree.isTooLong name = false) :
    k.advance v name =
      { way := k.way ++ [name]
        place := k.place ++ [name]
        seen := (k.place ++ [name]) :: k.seen
        bar := if v.isFile (k.place ++ [name]) then some .present else none } := by
  rw [advance, h, if_neg (by simp), if_neg hn, if_neg (by simp [hl])]

theorem way_advance (h : k.bar = none) : (k.advance v name).way = k.way ++ [name] := by
  unfold advance
  rw [h, if_neg (by simp)]
  split
  · rfl
  · split <;> rfl

theorem seen_advance (v : View) (k : Walk) (name : Text) (hl : l ∈ k.seen) :
    l ∈ (k.advance v name).seen := by
  unfold advance
  split
  · exact hl
  · split
    · exact hl
    · split
      · exact hl
      · exact List.mem_cons_of_mem _ hl

theorem lacks.advance (h : k.lacks v) (name : Text) : (k.advance v name).lacks v := by
  obtain ⟨l, hl, hv⟩ := h
  exact ⟨l, seen_advance v k name hl, hv⟩

theorem not_lacks_cons {way : List Text} {place : Location} {bar : Option FileCause}
    (hl : ¬ k.lacks v) (h : v l ≠ none) : ¬ lacks v ⟨way, place, l :: k.seen, bar⟩ := by
  rintro ⟨m, hm, hnone⟩
  rcases List.mem_cons.1 hm with rfl | hm
  · exact h hnone
  · exact hl ⟨m, hm, hnone⟩

theorem advance_congr (h : ∀ l ∈ (k.advance v name).seen, v'.isFile l = v.isFile l) :
    k.advance v' name = k.advance v name := by
  by_cases hb : k.bar = none
  · by_cases hn : name = "..".toList
    · rw [advance_dots hb hn, advance_dots hb hn]
    · cases hl : FileTree.isTooLong name with
      | true => rw [advance_long hb hn hl, advance_long hb hn hl]
      | false =>
        rw [advance_down hb hn hl] at h
        rw [advance_down hb hn hl, advance_down hb hn hl, h _ List.mem_cons_self]
  · rw [advance_of_bar hb, advance_of_bar hb]

end Walk

def View.walk (v : View) (parts : List Text) : Walk := parts.foldl (Walk.advance v) {}

namespace View

variable {v v' : View} {parts : List Text} {name : Text} {l : Location}

@[simp] theorem walk_nil (v : View) : v.walk [] = {} := rfl

theorem walk_append_singleton (v : View) (parts : List Text) (name : Text) :
    v.walk (parts ++ [name]) = (v.walk parts).advance v name := by
  rw [walk, List.foldl_append]
  rfl

theorem walk_congr (h : ∀ l ∈ (v.walk parts).seen, v'.isFile l = v.isFile l) :
    v'.walk parts = v.walk parts := by
  induction parts using List.reverseRecOn with
  | nil => rfl
  | append_singleton parts name ih =>
    rw [walk_append_singleton] at h
    have hk := ih fun l hl => h l (Walk.seen_advance v _ name hl)
    rw [walk_append_singleton, walk_append_singleton, hk]
    exact Walk.advance_congr h

theorem walk_fill (v : View) (ls : List Location) (parts : List Text) :
    (v.fill ls).walk parts = v.walk parts := walk_congr fun l _ => isFile_fill v ls l

/-- The invariant of a walk that nothing bars: it has come all the way, past no file. -/
structure Open (v : View) (parts : List Text) (k : Walk) : Prop where
  way : k.way = parts
  seen : ∀ l ∈ k.seen, v.isFile l = false

theorem open_walk (h : (v.walk parts).bar = none) : Open v parts (v.walk parts) := by
  induction parts using List.reverseRecOn with
  | nil => exact ⟨rfl, by simp⟩
  | append_singleton parts name ih =>
    rw [walk_append_singleton] at h ⊢
    have hb : (v.walk parts).bar = none := by
      by_contra hb
      rw [Walk.advance_of_bar hb] at h
      exact hb h
    obtain ⟨hway, hseen⟩ := ih hb
    by_cases hn : name = "..".toList
    · rw [Walk.advance_dots hb hn]
      exact ⟨by rw [hway], hseen⟩
    · cases hl : FileTree.isTooLong name with
      | true =>
        rw [Walk.advance_long hb hn hl] at h
        cases h
      | false =>
        rw [Walk.advance_down hb hn hl] at h ⊢
        have hfile : v.isFile ((v.walk parts).place ++ [name]) = false := by
          by_contra hf
          rw [if_pos (by simpa using hf)] at h
          cases h
        refine ⟨by rw [hway], fun l hl => ?_⟩
        rcases List.mem_cons.1 hl with rfl | hl
        · exact hfile
        · exact hseen l hl

/-- A way is barred by a name that is too long or by a file. -/
theorem bar_walk (v : View) (parts : List Text) :
    (v.walk parts).bar = none ∨ (v.walk parts).bar = some .nameTooLong ∨
      (v.walk parts).bar = some .present := by
  induction parts using List.reverseRecOn with
  | nil => exact .inl rfl
  | append_singleton parts name ih =>
    rw [walk_append_singleton]
    unfold Walk.advance
    split
    · exact ih
    · split
      · exact ih
      · split
        · exact .inr (.inl rfl)
        · by_cases hf : v.isFile ((v.walk parts).place ++ [name]) = true
          · exact .inr (.inr (if_pos hf))
          · exact .inl (if_neg hf)

theorem way_walk (h : (v.walk parts).bar ≠ none) : (v.walk parts).way <+: parts := by
  induction parts using List.reverseRecOn with
  | nil => exact absurd rfl h
  | append_singleton parts name ih =>
    rw [walk_append_singleton] at h ⊢
    by_cases hb : (v.walk parts).bar = none
    · have hway : ((v.walk parts).advance v name).way = parts ++ [name] := by
        rw [Walk.way_advance hb, (open_walk hb).way]
      exact hway ▸ List.prefix_refl _
    · rw [Walk.advance_of_bar hb]
      exact (ih hb).trans (List.prefix_append _ _)

/-- The error that names what bars the way. -/
def near (v : View) (slashes : Nat) (parts : List Text) (c : FileCause) : FileError :=
  ⟨c, ⟨slashes, (v.walk parts).way⟩⟩

/-- The error that names the whole directory: a file on the way to it is no directory. -/
def far (v : View) (slashes : Nat) (parts : List Text) (c : FileCause) : FileError :=
  ⟨if c = .present ∧ (v.walk parts).way ≠ parts then .notDirectory else c, ⟨slashes, parts⟩⟩

/-- Why a directory cannot be made. What bars the way is found on it if something is missing before
that, and else when the whole directory is asked for. -/
def hindrance (v : View) (slashes : Nat) (parts : List Text) : Option FileError :=
  (v.walk parts).bar.map fun c =>
    if (v.walk parts).lacks v then v.near slashes parts c else v.far slashes parts c

variable {slashes : Nat}

theorem hindrance_of_open (hb : (v.walk parts).bar = none) : v.hindrance slashes parts = none := by
  rw [hindrance, hb]
  rfl

/-- What bars the way before something is missing on it bars it for ever. -/
theorem hindrance_append_of_lacks (hb : (v.walk parts).bar ≠ none) (hl : (v.walk parts).lacks v)
    (name : Text) : v.hindrance slashes (parts ++ [name]) = v.hindrance slashes parts := by
  have hsame : v.walk (parts ++ [name]) = v.walk parts := by
    rw [walk_append_singleton, Walk.advance_of_bar hb]
  unfold hindrance near
  simp only [hsame, if_pos hl]

theorem hindrance_append_of_not_lacks (hb : (v.walk parts).bar ≠ none)
    (hl : ¬ (v.walk parts).lacks v) (name : Text) :
    v.hindrance slashes (parts ++ [name]) = (v.walk parts).bar.map fun c =>
      ⟨if c = .present then .notDirectory else c, ⟨slashes, parts ++ [name]⟩⟩ := by
  have hsame : v.walk (parts ++ [name]) = v.walk parts := by
    rw [walk_append_singleton, Walk.advance_of_bar hb]
  have hne : (v.walk parts).way ≠ parts ++ [name] := by
    intro he
    have hlen := (way_walk hb).length_le
    rw [he, List.length_append, List.length_singleton] at hlen
    omega
  unfold hindrance far
  simp only [hsame, if_neg hl, and_iff_left hne]

theorem hindrance_append_of_open (hb : (v.walk parts).bar = none) (name : Text) :
    v.hindrance slashes (parts ++ [name]) =
      (v.walk (parts ++ [name])).bar.map fun c => ⟨c, ⟨slashes, parts ++ [name]⟩⟩ := by
  have hway : (v.walk (parts ++ [name])).way = parts ++ [name] := by
    rw [walk_append_singleton, Walk.way_advance hb, (open_walk hb).way]
  unfold hindrance near far
  rw [hway]
  congr 1
  funext c
  split
  · rfl
  · rw [if_neg fun h => h.2 rfl]

theorem not_lacks_fill (v : View) (k : Walk) : ¬ k.lacks (v.fill k.seen) := by
  rintro ⟨l, hl, hnone⟩
  rw [fill_of_mem hl] at hnone
  cases hnone

end View

namespace FileTree

variable {t s : FileTree} {parts : List Text} {name : Text} {l dir : Location}

theorem locate_append_singleton (t : FileTree) (parts : List Text) (name : Text) :
    t.locate (parts ++ [name]) = t.locate parts >>= fun dir => t.enter dir name := by
  rw [locate_append]
  congr 1
  funext dir
  rw [List.foldlM_cons]
  exact bind_pure _

theorem at?_put_eq (t : FileTree) (hl : l ≠ []) (e : Entry) :
    (t.put l e).at? = fun k => if k = l then some e else t.at? k := by
  funext k
  exact at?_put t hl k e

theorem isDirectory_of_isFile (h : View.isFile t.at? l = true) : t.isDirectory l = false := by
  obtain ⟨c, hc⟩ := View.isFile_iff.1 h
  simp [isDirectory, hc]

theorem place_of_isFile (h : View.isFile t.at? dir = true) (name : Text) :
    t.place dir name = .error .notDirectory := by
  rw [place, isDirectory_of_isFile h]
  rfl

theorem place_dots (hd : t.isDirectory dir = true) (hn : name = "..".toList) :
    t.place dir name = .ok dir.dropLast := place_eq_ok.2 ⟨hd, .inl ⟨hn, rfl⟩⟩

theorem place_long (hd : t.isDirectory dir = true) (hn : name ≠ "..".toList)
    (hl : isTooLong name = true) : t.place dir name = .error .nameTooLong := by
  rw [place, hd, if_neg (by simp), if_neg hn, if_pos hl]

theorem place_down (hd : t.isDirectory dir = true) (hn : name ≠ "..".toList)
    (hl : isTooLong name = false) : t.place dir name = .ok (dir ++ [name]) :=
  place_eq_ok.2 ⟨hd, .inr ⟨hn, hl, rfl⟩⟩

theorem enter_of_place {c : FileCause} (h : t.place dir name = .error c) :
    t.enter dir name = .error c := by
  rw [enter, h]
  rfl

/-- What a walk tells about following components in a tree. -/
structure Followed (t : FileTree) (parts : List Text) (k : Walk) : Prop where
  /-- Something is missing on the way. -/
  lacking : k.lacks t.at? → t.locate parts = .error .notFound
  /-- A name is too long. -/
  long : ¬ k.lacks t.at? → k.bar = some .nameTooLong → t.locate parts = .error .nameTooLong
  /-- A file is met: it is where the components lead, or they go on from it. -/
  blocked : ¬ k.lacks t.at? → k.bar = some .present →
    t.locate parts = .error .notDirectory ∨
      ∃ l, t.locate parts = .ok l ∧ View.isFile t.at? l = true
  /-- Nothing is in the way. -/
  clear : ¬ k.lacks t.at? → k.bar = none →
    t.locate parts = .ok k.place ∧ ∀ l, l <+: k.place → t.isDirectory l = true

variable {k : Walk}

theorem Followed.of_lacks (h : k.lacks t.at?) (hloc : t.locate parts = .error .notFound) :
    Followed t parts k :=
  ⟨fun _ => hloc, fun hn => absurd h hn, fun hn => absurd h hn, fun hn => absurd h hn⟩

theorem Followed.advance_of_bar (h : Followed t parts k) (hb : k.bar ≠ none) (name : Text) :
    Followed t (parts ++ [name]) (k.advance t.at? name) := by
  have hgoes : ∀ c, t.locate parts = .error c → t.locate (parts ++ [name]) = .error c := by
    intro c hc
    rw [locate_append_singleton, hc]
    rfl
  rw [Walk.advance_of_bar hb]
  refine ⟨fun hl => hgoes _ (h.lacking hl), fun hl hbar => hgoes _ (h.long hl hbar),
    fun hl hbar => ?_, fun _ hbar => absurd hbar hb⟩
  rcases h.blocked hl hbar with hc | ⟨l, hloc, hfile⟩
  · exact .inl (hgoes _ hc)
  · refine .inl ?_
    rw [locate_append_singleton, hloc]
    exact enter_of_place (place_of_isFile hfile name)

/-- One component down, past nothing in the way: a file, a directory or nothing is there. -/
theorem followed_down (way : List Text) (hl : ¬ k.lacks t.at?)
    (hdirs : ∀ m, m <+: k.place → t.isDirectory m = true) (hplace : l = k.place ++ [name])
    (henter : t.locate parts = if (t.at? l).isSome then .ok l else .error .notFound) :
    Followed t parts ⟨way, l, l :: k.seen,
      if View.isFile t.at? l then some .present else none⟩ := by
  cases he : t.at? l with
  | none =>
    rw [he] at henter
    exact .of_lacks ⟨l, List.mem_cons_self, he⟩ henter
  | some e =>
    have hthere : t.at? l ≠ none := by simp [he]
    rw [he] at henter
    cases hfile : View.isFile t.at? l with
    | true =>
      exact ⟨fun h => absurd h (Walk.not_lacks_cons hl hthere), nofun,
        fun _ _ => .inr ⟨l, henter, hfile⟩, nofun⟩
    | false =>
      refine ⟨fun h => absurd h (Walk.not_lacks_cons hl hthere), nofun, nofun,
        fun _ _ => ⟨henter, fun m hm => ?_⟩⟩
      rw [hplace] at hm
      rcases List.prefix_concat_iff.1 hm with rfl | hm
      · rw [isDirectory_iff, ← hplace]
        exact View.eq_directory hfile hthere
      · exact hdirs m hm

theorem Followed.advance_of_clear (h : Followed t parts k) (hl : ¬ k.lacks t.at?)
    (hb : k.bar = none) (name : Text) :
    Followed t (parts ++ [name]) (k.advance t.at? name) := by
  obtain ⟨hat, hdirs⟩ := h.clear hl hb
  have hdir := hdirs k.place (List.prefix_refl _)
  have hloc : t.locate (parts ++ [name]) = t.enter k.place name := by
    rw [locate_append_singleton, hat]
    rfl
  by_cases hn : name = "..".toList
  · have hup := isDirectory_iff.1 (hdirs _ (List.dropLast_prefix k.place))
    have henter : t.enter k.place name = .ok k.place.dropLast :=
      enter_eq_ok.2 ⟨place_dots hdir hn, by simp [hup]⟩
    rw [Walk.advance_dots hb hn]
    refine ⟨fun h => absurd h hl, fun _ h => ?_, fun _ h => ?_, fun _ _ => ?_⟩
    · exact nomatch hb.symm.trans h
    · exact nomatch hb.symm.trans h
    · exact ⟨hloc.trans henter, fun l hl => hdirs l (hl.trans (List.dropLast_prefix _))⟩
  · cases hlong : isTooLong name with
    | true =>
      have henter := enter_of_place (place_long hdir hn hlong)
      rw [Walk.advance_long hb hn hlong]
      exact ⟨fun h => absurd h hl, fun _ _ => hloc.trans henter, nofun, nofun⟩
    | false =>
      rw [Walk.advance_down hb hn hlong]
      refine followed_down _ hl hdirs rfl ?_
      rw [hloc, enter, place_down hdir hn hlong]
      rfl

theorem followed_walk (t : FileTree) (parts : List Text) :
    Followed t parts (View.walk t.at? parts) := by
  induction parts using List.reverseRecOn with
  | nil =>
    refine ⟨?_, nofun, nofun, fun _ _ => ⟨rfl, fun l hl => ?_⟩⟩
    · rintro ⟨l, hl, -⟩
      cases hl
    · rw [List.prefix_nil.1 hl, isDirectory_iff, at?_nil]
  | append_singleton parts name ih =>
    rw [View.walk_append_singleton]
    by_cases hl : (View.walk t.at? parts).lacks t.at?
    · refine .of_lacks (hl.advance name) ?_
      rw [locate_append_singleton, ih.lacking hl]
      rfl
    · by_cases hb : (View.walk t.at? parts).bar = none
      · exact ih.advance_of_clear hl hb name
      · exact ih.advance_of_bar hb name

/-! Making directories. -/

theorem hasDirectory_of_clear (hnul : hasNul parts = false)
    (hl : ¬ (View.walk t.at? parts).lacks t.at?) (hb : (View.walk t.at? parts).bar = none) :
    t.hasDirectory parts = .ok true := by
  obtain ⟨hloc, hdirs⟩ := (followed_walk t parts).clear hl hb
  have hdir := isDirectory_iff.1 (hdirs _ (List.prefix_refl _))
  simp [hasDirectory, hnul, find, hloc, bind, Except.bind, hdir]

theorem hasDirectory_of_bar (hnul : hasNul parts = false)
    (hl : ¬ (View.walk t.at? parts).lacks t.at?) (hb : (View.walk t.at? parts).bar ≠ none) :
    t.hasDirectory parts ≠ .ok true := by
  have hf := followed_walk t parts
  rcases View.bar_walk t.at? parts with h | h | h
  · exact absurd h hb
  · simp [hasDirectory, hnul, find, hf.long hl h, bind, Except.bind]
  · rcases hf.blocked hl h with hloc | ⟨l, hloc, hfile⟩
    · simp [hasDirectory, hnul, find, hloc, bind, Except.bind]
    · obtain ⟨c, hc⟩ := View.isFile_iff.1 hfile
      simp [hasDirectory, hnul, find, hloc, bind, Except.bind, hc]

theorem settled_of_directory {c : FileCause} (hc : c ≠ .notFound)
    (h : t.hasDirectory parts = .ok true) : t.settled parts (.error c) = (t, none) := by
  cases c <;> first | exact absurd rfl hc | simp [settled, h]

theorem settled_of_not_directory {c : FileCause} (hc : c ≠ .notFound)
    (h : t.hasDirectory parts ≠ .ok true) : t.settled parts (.error c) = (t, some c) := by
  cases hd : t.hasDirectory parts with
  | error e => cases c <;> first | exact absurd rfl hc | simp [settled, hd]
  | ok b =>
    cases b with
    | true => exact absurd hd h
    | false => cases c <;> first | exact absurd rfl hc | simp [settled, hd]

theorem makeDirectory_append_singleton (t : FileTree) (parts : List Text) (name : Text) :
    t.makeDirectory (parts ++ [name]) = (do
      let dir ← t.locate parts
      let l ← t.place dir name
      if name = "..".toList || (t.at? l).isSome then .error .present
      else .ok (t.put l .directory)) := by
  rw [makeDirectory, List.getLast?_concat, List.dropLast_concat]

theorem makeDirectory_of_place (hloc : t.locate parts = .ok dir)
    (hplace : t.place dir name = .ok l) :
    t.makeDirectory (parts ++ [name]) =
      if name = "..".toList || (t.at? l).isSome then .error .present
      else .ok (t.put l .directory) := by
  rw [makeDirectory_append_singleton, hloc]
  show (t.place dir name >>= fun l => _) = _
  rw [hplace]
  rfl

theorem makeDirectory_of_error {c : FileCause} (hloc : t.locate parts = .error c) (name : Text) :
    t.makeDirectory (parts ++ [name]) = .error c := by
  rw [makeDirectory_append_singleton, hloc]
  rfl

structure Made (t : FileTree) (parts : List Text) : Prop where
  possible : t.makeDirectory parts ≠ .error .notFound
  entries : (t.settled parts (t.makeDirectory parts)).1.at? =
    View.fill t.at? (View.walk t.at? parts).seen
  bar : (t.settled parts (t.makeDirectory parts)).2 = (View.walk t.at? parts).bar

/-- A refusal settles it where nothing is missing: either the directory is there already, or what
bars the way is what it is refused for. -/
theorem made_of_error {c : FileCause} (hnul : hasNul parts = false) (hc : c ≠ .notFound)
    (hmake : t.makeDirectory parts = .error c) (hl : ¬ (View.walk t.at? parts).lacks t.at?)
    (hb : (View.walk t.at? parts).bar = none ∨ (View.walk t.at? parts).bar = some c) :
    Made t parts := by
  have hfill : View.fill t.at? (View.walk t.at? parts).seen = t.at? :=
    View.fill_eq_self fun l hm he => hl ⟨l, hm, he⟩
  have hne : t.makeDirectory parts ≠ .error .notFound := by
    rw [hmake]
    simpa using hc
  rcases hb with hb | hb
  · have hset := settled_of_directory hc (hasDirectory_of_clear hnul hl hb)
    exact ⟨hne, by rw [hmake, hset, hfill], by rw [hmake, hset, hb]⟩
  · have hbar : (View.walk t.at? parts).bar ≠ none := by simp [hb]
    have hset := settled_of_not_directory hc (hasDirectory_of_bar hnul hl hbar)
    exact ⟨hne, by rw [hmake, hset, hfill], by rw [hmake, hset, hb]⟩

theorem made_append_singleton (hnul : hasNul (parts ++ [name]) = false)
    (hl : ¬ (View.walk t.at? parts).lacks t.at?) (hb : (View.walk t.at? parts).bar = none) :
    Made t (parts ++ [name]) := by
  obtain ⟨hloc, hdirs⟩ := (followed_walk t parts).clear hl hb
  have hdir := hdirs _ (List.prefix_refl _)
  have hwalk := View.walk_append_singleton t.at? parts name
  generalize View.walk t.at? parts = k at hl hb hloc hdirs hdir hwalk
  by_cases hn : name = "..".toList
  · rw [Walk.advance_dots hb hn] at hwalk
    have hmake : t.makeDirectory (parts ++ [name]) = .error .present := by
      rw [makeDirectory_of_place hloc (place_dots hdir hn), if_pos (by simp [hn])]
    refine made_of_error hnul (by simp) hmake ?_ (.inl ?_) <;> rw [hwalk]
    · exact hl
    · exact hb
  · cases hlong : isTooLong name with
    | true =>
      rw [Walk.advance_long hb hn hlong] at hwalk
      have hmake : t.makeDirectory (parts ++ [name]) = .error .nameTooLong := by
        rw [makeDirectory_append_singleton, hloc]
        show (t.place k.place name >>= fun l => _) = _
        rw [place_long hdir hn hlong]
        rfl
      refine made_of_error hnul (by simp) hmake ?_ (.inr ?_) <;> rw [hwalk]
      exact hl
    | false =>
      rw [Walk.advance_down hb hn hlong] at hwalk
      have hmake := makeDirectory_of_place hloc (place_down hdir hn hlong)
      cases he : t.at? (k.place ++ [name]) with
      | none =>
        rw [if_neg (by simpa [he] using hn)] at hmake
        have hfile : View.isFile t.at? (k.place ++ [name]) = false := by simp [View.isFile, he]
        have hthere : ∀ l ∈ k.seen, t.at? l ≠ none := fun l hm hnone => hl ⟨l, hm, hnone⟩
        refine ⟨by simp [hmake], ?_, ?_⟩ <;> rw [hmake, hwalk]
        · rw [View.fill_cons he hthere]
          exact at?_put_eq t (by simp) _
        · rw [hfile]
          rfl
      | some e =>
        rw [if_pos (by simp [he])] at hmake
        refine made_of_error hnul (by simp) hmake ?_ ?_ <;> rw [hwalk]
        · exact Walk.not_lacks_cons hl (by simp [he])
        · by_cases hfile : View.isFile t.at? (k.place ++ [name]) = true
          · exact .inr (if_pos hfile)
          · exact .inl (if_neg hfile)

/-- Making a directory behind what bars the way, when nothing is missing before that. -/
theorem makeDirectory_of_bar (hl : ¬ (View.walk t.at? parts).lacks t.at?)
    (hb : (View.walk t.at? parts).bar ≠ none) (name : Text) :
    ∃ c, c ≠ .notFound ∧ t.makeDirectory (parts ++ [name]) = .error c ∧
      (View.walk t.at? parts).bar.map (fun c => if c = .present then .notDirectory else c) =
        some c := by
  have hf := followed_walk t parts
  rcases View.bar_walk t.at? parts with h | h | h
  · exact absurd h hb
  · exact ⟨.nameTooLong, by simp, makeDirectory_of_error (hf.long hl h) name, by simp [h]⟩
  · refine ⟨.notDirectory, by simp, ?_, by simp [h]⟩
    rcases hf.blocked hl h with hloc | ⟨l, hloc, hfile⟩
    · exact makeDirectory_of_error hloc name
    · rw [makeDirectory_append_singleton, hloc]
      show (t.place l name >>= fun l => _) = _
      rw [place_of_isFile hfile]
      rfl

theorem hasNul_of_append {a b : List Text} (h : hasNul (a ++ b) = false) : hasNul a = false := by
  rw [hasNul, List.any_append, Bool.or_eq_false_iff] at h
  exact h.1

theorem settled_of_fill (hnul : hasNul (parts ++ [name]) = false)
    (hb : (View.walk t.at? parts).bar = none)
    (hs : s.at? = View.fill t.at? (View.walk t.at? parts).seen) :
    (s.settled (parts ++ [name]) (s.makeDirectory (parts ++ [name]))).1.at? =
        View.fill t.at? (View.walk t.at? (parts ++ [name])).seen ∧
      (s.settled (parts ++ [name]) (s.makeDirectory (parts ++ [name]))).2 =
        (View.walk t.at? (parts ++ [name])).bar := by
  have hwalk : ∀ ps, View.walk s.at? ps = View.walk t.at? ps := by
    intro ps
    rw [hs, View.walk_fill]
  have hl : ¬ (View.walk s.at? parts).lacks s.at? := by
    rw [hwalk, hs]
    exact View.not_lacks_fill _ _
  obtain ⟨-, hat, hbar⟩ := made_append_singleton hnul hl (by rw [hwalk, hb])
  rw [hat, hbar, hwalk]
  refine ⟨?_, rfl⟩
  rw [hs, View.fill_fill]
  intro l hm
  rw [View.walk_append_singleton]
  exact Walk.seen_advance _ _ _ hm

structure MadeWay (slashes : Nat) (t : FileTree) (back : List Text) : Prop where
  entries : (makeWay slashes t back).1.at? = View.fill t.at? (View.walk t.at? back.reverse).seen
  refused : (makeWay slashes t back).2 = View.hindrance t.at? slashes back.reverse

section

variable {slashes : Nat} {up : List Text}

theorem MadeWay.of_lacks (h : MadeWay slashes t up) (hnul : hasNul (up.reverse ++ [name]) = false)
    (hl : (View.walk t.at? up.reverse).lacks t.at?) : MadeWay slashes t (name :: up) := by
  have hmake := makeDirectory_of_error ((followed_walk t up.reverse).lacking hl) name
  rw [← List.reverse_cons] at hmake
  have hway := @makeWay_of_notFound t name slashes up hmake
  obtain ⟨hat, herr⟩ := h
  rcases hup : makeWay slashes t up with ⟨s, e⟩
  rw [hup] at hat herr hway
  by_cases hb : (View.walk t.at? up.reverse).bar = none
  · rw [View.hindrance_of_open hb] at herr
    obtain rfl : e = none := herr
    obtain ⟨hat', hbar⟩ := settled_of_fill hnul hb hat
    constructor <;> rw [hway, List.reverse_cons]
    · exact hat'
    · rw [View.hindrance_append_of_open hb, ← hbar]
  · obtain ⟨c, hc⟩ := Option.ne_none_iff_exists'.1 hb
    cases e with
    | none =>
      rw [View.hindrance, hc] at herr
      cases herr
    | some e =>
      constructor <;> rw [hway, List.reverse_cons]
      · rw [View.walk_append_singleton, Walk.advance_of_bar hb]
        exact hat
      · rw [View.hindrance_append_of_lacks hb hl]
        exact herr

theorem madeWay_of_open (hnul : hasNul (up.reverse ++ [name]) = false)
    (hl : ¬ (View.walk t.at? up.reverse).lacks t.at?)
    (hb : (View.walk t.at? up.reverse).bar = none) : MadeWay slashes t (name :: up) := by
  obtain ⟨hne, hat, hbar⟩ := made_append_singleton hnul hl hb
  rw [← List.reverse_cons] at hne
  constructor <;> rw [makeWay_of_ne hne, List.reverse_cons]
  · exact hat
  · rw [View.hindrance_append_of_open hb, ← hbar]

theorem madeWay_of_bar (hnul : hasNul (up.reverse ++ [name]) = false)
    (hl : ¬ (View.walk t.at? up.reverse).lacks t.at?)
    (hb : (View.walk t.at? up.reverse).bar ≠ none) : MadeWay slashes t (name :: up) := by
  obtain ⟨c, hc, hmake, hbar⟩ := makeDirectory_of_bar hl hb name
  have hstep : View.walk t.at? (up.reverse ++ [name]) = View.walk t.at? up.reverse := by
    rw [View.walk_append_singleton, Walk.advance_of_bar hb]
  have hno : t.hasDirectory (up.reverse ++ [name]) ≠ .ok true :=
    hasDirectory_of_bar hnul (by rwa [hstep]) (by rwa [hstep])
  have hset := settled_of_not_directory hc hno
  have hne : t.makeDirectory (name :: up).reverse ≠ .error .notFound := by
    rw [List.reverse_cons, hmake]
    simpa using hc
  constructor <;> rw [makeWay_of_ne hne, List.reverse_cons, hmake, hset]
  · rw [hstep]
    exact (View.fill_eq_self fun l hm he => hl ⟨l, hm, he⟩).symm
  · rw [View.hindrance_append_of_not_lacks hb hl]
    obtain ⟨k, hk⟩ := Option.ne_none_iff_exists'.1 hb
    rw [hk, Option.map_some, Option.some.injEq] at hbar
    rw [hk, Option.map_some, hbar]
    rfl

end

theorem madeWay (slashes : Nat) (t : FileTree) (back : List Text)
    (hnul : hasNul back.reverse = false) : MadeWay slashes t back := by
  induction back with
  | nil => exact ⟨(View.fill_nil _).symm, rfl⟩
  | cons name up ih =>
    rw [List.reverse_cons] at hnul
    by_cases hl : (View.walk t.at? up.reverse).lacks t.at?
    · exact (ih (hasNul_of_append hnul)).of_lacks hnul hl
    · by_cases hb : (View.walk t.at? up.reverse).bar = none
      · exact madeWay_of_open hnul hl hb
      · exact madeWay_of_bar hnul hl hb

end FileTree

end TestScribe
