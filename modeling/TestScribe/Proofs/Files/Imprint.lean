import TestScribe.Proofs.Files.Walk

/-!
What a write leaves in a tree: the directories on its way, and its file if it comes that far. Two
paths below one directory of which neither reaches into the other leave each other's imprint alone
(`imprint_stamp`), so their writes can be exchanged (`stamp_comm`), and what a write is refused for
does not depend on the other one, except that it may name what bars the way or the whole directory
(`refusal_alike`).
-/

namespace TestScribe

namespace View

variable {v : View} {parts : List Text} {name : Text} {l : Location}

/-- Where a file of a name goes once the directory of a walk is there, or why it cannot go there. -/
def spot (v : View) (k : Walk) (name : Text) : Except FileCause Location :=
  if name = "..".toList then .error .isDirectory
  else if FileTree.isTooLong name then .error .nameTooLong
  else if v.fill k.seen (k.place ++ [name]) = some .directory then .error .isDirectory
  else .ok (k.place ++ [name])

def leaf (v : View) (parts : List Text) : Except FileCause Location :=
  if FileTree.hasNul parts then .error .embeddedNul
  else
    match parts.getLast? with
    | none => .error .isDirectory
    | some name => v.spot (v.walk parts.dropLast) name

def refusal (v : View) (q : Path) : Option FileError :=
  if FileTree.hasNul q.parent.parts then some ⟨.embeddedNul, q.parent⟩
  else
    match v.hindrance q.slashes q.parent.parts with
    | some e => some e
    | none =>
      match v.leaf q.parts with
      | .error c => some ⟨c, q⟩
      | .ok _ => none

/-- What a write leaves: directories, and the place of a file. -/
structure Imprint where
  seen : List Location
  file : Option Location

def imprint (v : View) (q : Path) : Imprint :=
  if FileTree.hasNul q.parent.parts then ⟨[], none⟩
  else
    { seen := (v.walk q.parent.parts).seen
      file := if (v.walk q.parent.parts).bar = none then (v.leaf q.parts).toOption else none }

def press (v : View) (m : Imprint) (body : Text) : View := fun l =>
  if m.file = some l then some (.file (.text body)) else v.fill m.seen l

def stamp (v : View) (q : Path) (body : Text) : View := v.press (v.imprint q) body

theorem spot_eq_ok {k : Walk} (h : v.spot k name = .ok l) :
    l = k.place ++ [name] ∧ v.fill k.seen l ≠ some .directory := by
  unfold spot at h
  split at h
  · cases h
  · split at h
    · cases h
    · split at h
      · cases h
      · rename_i hd
        cases h
        exact ⟨rfl, hd⟩

theorem leaf_eq_ok (h : v.leaf parts = .ok l) :
    ∃ name, parts = parts.dropLast ++ [name] ∧ l = (v.walk parts.dropLast).place ++ [name] ∧
      v.fill (v.walk parts.dropLast).seen l ≠ some .directory := by
  unfold leaf at h
  split at h
  · cases h
  · split at h
    · cases h
    · rename_i name hname
      obtain ⟨ys, hys⟩ := List.getLast?_eq_some_iff.1 hname
      refine ⟨name, ?_, spot_eq_ok h⟩
      rw [hys, List.dropLast_concat]

theorem press_of_none {m : Imprint} (h : m.file = none) (body : Text) :
    v.press m body = v.fill m.seen := by
  funext l
  rw [press, h, if_neg (by simp)]

theorem press_of_some {m : Imprint} (h : m.file = some l) (body : Text) :
    v.press m body = fun k => if k = l then some (.file (.text body)) else v.fill m.seen k := by
  funext k
  by_cases hk : k = l
  · rw [press, if_pos (by rw [h, hk]), if_pos hk]
  · rw [press, if_neg (by simp [h, Ne.symm hk]), if_neg hk]

end View

namespace FileTree

variable {t s : FileTree} {parts : List Text}

theorem put_of_place {v : View} {k : Walk} (hs : s.at? = v.fill k.seen)
    (hdirs : ∀ l, l <+: k.place → s.isDirectory l = true) (name : Text) (e : Entry) :
    (s.place k.place name >>= fun l =>
      if s.isDirectory l then .error .isDirectory else .ok (s.put l e)) =
      (v.spot k name).map fun l => s.put l e := by
  have hdir := hdirs _ (List.prefix_refl _)
  unfold View.spot
  by_cases hn : name = "..".toList
  · rw [place_dots hdir hn, if_pos hn]
    exact if_pos (hdirs _ (List.dropLast_prefix _))
  · rw [if_neg hn]
    cases hlong : isTooLong name with
    | true =>
      rw [place_long hdir hn hlong]
      rfl
    | false =>
      rw [place_down hdir hn hlong, if_neg (by simp), ← hs]
      show (if s.isDirectory (k.place ++ [name]) then _ else _) = _
      by_cases hd : s.isDirectory (k.place ++ [name]) = true
      · rw [if_pos hd, if_pos (isDirectory_iff.1 hd)]
        rfl
      · rw [if_neg hd, if_neg (mt isDirectory_iff.2 hd)]
        rfl

theorem save_eq {v : View} (hs : s.at? = v.fill (v.walk parts.dropLast).seen)
    (hb : (v.walk parts.dropLast).bar = none) (body : Text) :
    s.save parts body = (v.leaf parts).map fun l => s.put l (.file (.text body)) := by
  have hwalk : View.walk s.at? parts.dropLast = v.walk parts.dropLast := by
    rw [hs, View.walk_fill]
  have hf := followed_walk s parts.dropLast
  rw [hwalk] at hf
  obtain ⟨hloc, hdirs⟩ := hf.clear (by rw [hs]; exact View.not_lacks_fill _ _) hb
  unfold save View.leaf
  split
  · rfl
  · cases hlast : parts.getLast? with
    | none => rfl
    | some name =>
      rw [hloc]
      exact put_of_place hs hdirs name (.file (.text body))

/-- A write does to a tree what its imprint says, and is refused for what the view tells. -/
theorem write_eq (t : FileTree) (q : Path) (body : Text) :
    (t.write q body).1.at? = View.stamp t.at? q body ∧
      (t.write q body).2 = View.refusal t.at? q := by
  unfold write View.stamp View.imprint View.refusal
  by_cases hnul : hasNul q.parent.parts = true
  · simp only [if_pos hnul]
    rw [View.press_of_none rfl, View.fill_nil]
    exact ⟨rfl, trivial⟩
  · simp only [if_neg hnul]
    obtain ⟨hat, herr⟩ := madeWay q.slashes t q.parent.parts.reverse (by simpa using hnul)
    rw [List.reverse_reverse] at hat herr
    generalize makeWay q.slashes t q.parent.parts.reverse = made at hat herr ⊢
    obtain ⟨s, e⟩ := made
    by_cases hb : (View.walk t.at? q.parent.parts).bar = none
    · rw [View.hindrance_of_open hb] at herr ⊢
      obtain rfl : e = none := herr
      have hsave : s.save q.parts body =
          (View.leaf t.at? q.parts).map fun l => s.put l (.file (.text body)) :=
        save_eq hat hb body
      cases hleaf : View.leaf t.at? q.parts with
      | error c =>
        rw [hleaf] at hsave
        simp only [hsave, Except.map, if_pos hb]
        rw [View.press_of_none rfl]
        exact ⟨hat, trivial⟩
      | ok l =>
        rw [hleaf] at hsave
        simp only [hsave, Except.map, if_pos hb]
        obtain ⟨name, -, hl, -⟩ := View.leaf_eq_ok hleaf
        rw [View.press_of_some rfl, at?_put_eq s (by simp [hl]), hat]
        exact ⟨rfl, trivial⟩
    · obtain ⟨c, hc⟩ := Option.ne_none_iff_exists'.1 hb
      cases e with
      | none =>
        rw [View.hindrance, hc] at herr
        cases herr
      | some e =>
        rw [if_neg hb, View.press_of_none rfl, ← herr]
        exact ⟨hat, rfl⟩

end FileTree

/-- Paths below one directory of which neither reaches into the other. -/
def Path.Beside (p q : Path) : Prop :=
  ∃ slashes base a b, p = ⟨slashes, base ++ a⟩ ∧ q = ⟨slashes, base ++ b⟩ ∧
    "..".toList ∉ a ∧ "..".toList ∉ b ∧ ¬ a <+: b ∧ ¬ b <+: a

namespace View

variable {v v' v'' : View} {base a b : List Text} {name : Text} {l : Location} {p q : Path}
  {body : Text}

/-- A walk that goes straight down from a directory. -/
structure Descends (v : View) (base a : List Text) : Prop where
  seen : ∀ l ∈ (v.walk base).seen, l ∈ (v.walk (base ++ a)).seen
  of_seen : ∀ l ∈ (v.walk (base ++ a)).seen, l ∈ (v.walk base).seen ∨
    ∃ b, b <+: a ∧ l = (v.walk base).place ++ b
  place : (v.walk (base ++ a)).bar = none → (v.walk (base ++ a)).place = (v.walk base).place ++ a

theorem Descends.append_singleton (h : Descends v base a) (hn : name ≠ "..".toList) :
    Descends v base (a ++ [name]) := by
  obtain ⟨hseen, hof, hplace⟩ := h
  have hold : ∀ l ∈ (v.walk (base ++ a)).seen, l ∈ (v.walk base).seen ∨
      ∃ b, b <+: a ++ [name] ∧ l = (v.walk base).place ++ b := by
    intro l hl
    rcases hof l hl with h | ⟨b, hb, he⟩
    · exact .inl h
    · exact .inr ⟨b, hb.trans (List.prefix_append _ _), he⟩
  refine ⟨?_, ?_, ?_⟩ <;> rw [← List.append_assoc, walk_append_singleton]
  · exact fun l hl => Walk.seen_advance _ _ _ (hseen l hl)
  · by_cases hb : (v.walk (base ++ a)).bar = none
    · cases hlong : FileTree.isTooLong name with
      | true =>
        rw [Walk.advance_long hb hn hlong]
        exact hold
      | false =>
        rw [Walk.advance_down hb hn hlong]
        intro l hl
        rcases List.mem_cons.1 hl with rfl | hl
        · exact .inr ⟨a ++ [name], List.prefix_refl _, by rw [hplace hb, List.append_assoc]⟩
        · exact hold l hl
    · rw [Walk.advance_of_bar hb]
      exact hold
  · intro hclear
    by_cases hb : (v.walk (base ++ a)).bar = none
    · cases hlong : FileTree.isTooLong name with
      | true =>
        rw [Walk.advance_long hb hn hlong] at hclear
        cases hclear
      | false =>
        rw [Walk.advance_down hb hn hlong, hplace hb, List.append_assoc]
    · rw [Walk.advance_of_bar hb] at hclear
      exact absurd hclear hb

theorem descends (v : View) (base : List Text) (ha : "..".toList ∉ a) : Descends v base a := by
  induction a using List.reverseRecOn with
  | nil =>
    refine ⟨?_, ?_, ?_⟩ <;> rw [List.append_nil]
    · exact fun l hl => hl
    · exact fun l hl => .inl hl
    · exact fun _ => (List.append_nil _).symm
  | append_singleton a name ih =>
    rw [List.mem_append, List.mem_singleton, not_or] at ha
    exact (ih ha.1).append_singleton (Ne.symm ha.2)

theorem file_imprint (h : (v.imprint q).file = some l) :
    ∃ name, q.parts = q.parent.parts ++ [name] ∧ (v.walk q.parent.parts).bar = none ∧
      l = (v.walk q.parent.parts).place ++ [name] ∧ l ∉ (v.walk q.parent.parts).seen := by
  unfold imprint at h
  split at h
  · cases h
  · by_cases hb : (v.walk q.parent.parts).bar = none
    · simp only [if_pos hb] at h
      cases hleaf : v.leaf q.parts with
      | error c =>
        rw [hleaf] at h
        cases h
      | ok k =>
        rw [hleaf] at h
        cases h
        obtain ⟨name, hparts, hl, hne⟩ := leaf_eq_ok hleaf
        refine ⟨name, hparts, hb, hl, fun hm => hne ?_⟩
        -- what an open walk has met is a directory once it is filled in
        exact fill_eq_directory ((open_walk hb).seen l hm) hm
    · simp only [if_neg hb] at h
      cases h

theorem seen_imprint (h : l ∈ (v.imprint q).seen) : l ∈ (v.walk q.parent.parts).seen := by
  unfold imprint at h
  split at h
  · cases h
  · exact h

theorem stamp_of_ne (hf : (v.imprint p).file ≠ some l) :
    v.stamp p body l = v.fill (v.imprint p).seen l := if_neg hf

/-! Two paths below one directory. -/

theorem ne_nil_of_not_prefix (h : ¬ a <+: b) : a ≠ [] := by
  rintro rfl
  exact h List.nil_prefix

theorem parent_parts (hparts : q.parts = base ++ a) (hne : a ≠ []) :
    q.parent.parts = base ++ a.dropLast := by
  show q.parts.dropLast = _
  rw [hparts, List.dropLast_append_of_ne_nil hne]

theorem place_of_open (ha : "..".toList ∉ a) (hparts : q.parts = base ++ a) (hne : a ≠ [])
    (hname : q.parts = q.parent.parts ++ [name]) (hb : (v.walk q.parent.parts).bar = none) :
    (v.walk q.parent.parts).place ++ [name] = (v.walk base).place ++ a := by
  have hlast : a = a.dropLast ++ [name] := by
    rw [parent_parts hparts hne, hparts, List.append_assoc] at hname
    exact List.append_cancel_left hname
  rw [parent_parts hparts hne] at hb ⊢
  have hdown := descends v base fun h => ha (List.dropLast_subset a h)
  rw [hdown.place hb, List.append_assoc, ← hlast]

/-- A place straight below a directory is met on another way down only if that way leads through it;
else it has been met on the own way to the directory. -/
theorem seen_of_beside (ha : "..".toList ∉ a) (hb : "..".toList ∉ b) (hba : ¬ b <+: a)
    (hm : (v.walk base).place ++ b ∈ (v.walk (base ++ a.dropLast)).seen) :
    (v.walk base).place ++ b ∈ (v.walk (base ++ b.dropLast)).seen := by
  have hdown := descends v base fun h => ha (List.dropLast_subset a h)
  rcases hdown.of_seen _ hm with h | ⟨c, hc, he⟩
  · exact (descends v base fun h => hb (List.dropLast_subset b h)).seen _ h
  · obtain rfl : b = c := List.append_cancel_left he
    exact absurd (hc.trans (List.dropLast_prefix _)) hba

variable (hpq : p.Beside q)
include hpq

theorem beside_symm : q.Beside p := by
  obtain ⟨slashes, base, a, b, hp, hq, ha, hb, hab, hba⟩ := hpq
  exact ⟨slashes, base, b, a, hq, hp, hb, ha, hba, hab⟩

theorem file_not_seen (hf : (v.imprint p).file = some l) :
    l ∉ (v.walk q.parent.parts).seen := by
  obtain ⟨slashes, base, a, b, rfl, rfl, ha, hb, hab, hba⟩ := hpq
  have hane := ne_nil_of_not_prefix hab
  have hbne := ne_nil_of_not_prefix hba
  obtain ⟨name, hname, hbar, rfl, hl⟩ := file_imprint hf
  rw [place_of_open ha rfl hane hname hbar] at hl ⊢
  rw [parent_parts rfl hane] at hl
  rw [parent_parts rfl hbne]
  exact fun hm => hl (seen_of_beside hb ha hab hm)

theorem file_ne (hf : (v.imprint p).file = some l) : (v.imprint q).file ≠ some l := by
  obtain ⟨slashes, base, a, b, rfl, rfl, ha, hb, hab, hba⟩ := hpq
  have hane := ne_nil_of_not_prefix hab
  have hbne := ne_nil_of_not_prefix hba
  intro hf'
  obtain ⟨name, hname, hbar, rfl, -⟩ := file_imprint hf
  obtain ⟨name', hname', hbar', he, -⟩ := file_imprint hf'
  rw [place_of_open ha rfl hane hname hbar, place_of_open hb rfl hbne hname' hbar'] at he
  obtain rfl : a = b := List.append_cancel_left he
  exact hab (List.prefix_refl _)

theorem isFile_stamp (hl : l ∈ (v.walk q.parent.parts).seen) (body : Text) :
    (v.stamp p body).isFile l = v.isFile l := by
  have he : v.stamp p body l = v.fill (v.imprint p).seen l :=
    stamp_of_ne fun hf => file_not_seen hpq hf hl
  unfold isFile
  rw [he]
  exact isFile_fill v _ l

theorem walk_stamp (body : Text) :
    (v.stamp p body).walk q.parent.parts = v.walk q.parent.parts :=
  walk_congr fun _ hl => isFile_stamp hpq hl body

theorem stamp_of_not_seen (hname : q.parts = q.parent.parts ++ [name])
    (hb : (v.walk q.parent.parts).bar = none)
    (hm : (v.walk q.parent.parts).place ++ [name] ∉ (v.walk q.parent.parts).seen) (body : Text) :
    v.stamp p body ((v.walk q.parent.parts).place ++ [name]) =
      v ((v.walk q.parent.parts).place ++ [name]) := by
  obtain ⟨slashes, base, a, b, rfl, rfl, ha, hb', hab, hba⟩ := hpq
  have hane := ne_nil_of_not_prefix hab
  have hbne := ne_nil_of_not_prefix hba
  rw [place_of_open hb' rfl hbne hname hb] at hm ⊢
  rw [parent_parts rfl hbne] at hm
  have hfile : (v.imprint ⟨slashes, base ++ a⟩).file ≠ some ((v.walk base).place ++ b) := by
    intro hf
    obtain ⟨name', hname', hbar, he, -⟩ := file_imprint hf
    rw [place_of_open ha rfl hane hname' hbar] at he
    obtain rfl : b = a := List.append_cancel_left he
    exact hab (List.prefix_refl _)
  rw [stamp_of_ne hfile, fill_of_not_mem]
  intro hseen
  have hseen' := seen_imprint hseen
  rw [parent_parts rfl hane] at hseen'
  exact hm (seen_of_beside ha hb' hba hseen')

theorem fill_stamp (hname : q.parts = q.parent.parts ++ [name])
    (hb : (v.walk q.parent.parts).bar = none) (body : Text) :
    ((v.stamp p body).fill (v.walk q.parent.parts).seen
        ((v.walk q.parent.parts).place ++ [name]) = some .directory) ↔
      v.fill (v.walk q.parent.parts).seen
        ((v.walk q.parent.parts).place ++ [name]) = some .directory := by
  have hopen := (open_walk hb).seen
  by_cases hm : (v.walk q.parent.parts).place ++ [name] ∈ (v.walk q.parent.parts).seen
  · have hfile : (v.stamp p body).isFile ((v.walk q.parent.parts).place ++ [name]) = false := by
      rw [isFile_stamp hpq hm, hopen _ hm]
    exact iff_of_true (fill_eq_directory hfile hm) (fill_eq_directory (hopen _ hm) hm)
  · rw [fill_of_not_mem hm, fill_of_not_mem hm, stamp_of_not_seen hpq hname hb hm]

theorem leaf_stamp (hb : (v.walk q.parent.parts).bar = none) (body : Text) :
    (v.stamp p body).leaf q.parts = v.leaf q.parts := by
  have hwalk := walk_stamp (v := v) hpq body
  unfold leaf
  split
  · rfl
  · cases hlast : q.parts.getLast? with
    | none => rfl
    | some name =>
      have hname : q.parts = q.parent.parts ++ [name] := by
        obtain ⟨ys, hys⟩ := List.getLast?_eq_some_iff.1 hlast
        show q.parts = q.parts.dropLast ++ [name]
        rw [hys, List.dropLast_concat]
      show (v.stamp p body).spot ((v.stamp p body).walk q.parent.parts) name =
        v.spot (v.walk q.parent.parts) name
      unfold spot
      rw [hwalk]
      simp only [fill_stamp hpq hname hb body]

/-- Writing to one path does not change what writing to the other one leaves. -/
theorem imprint_stamp (body : Text) : (v.stamp p body).imprint q = v.imprint q := by
  unfold imprint
  split
  · rfl
  · rw [walk_stamp hpq body]
    by_cases hb : (v.walk q.parent.parts).bar = none
    · rw [if_pos hb, if_pos hb, leaf_stamp hpq hb body]
    · rw [if_neg hb, if_neg hb]

/-- Writes to two such paths can be exchanged. -/
theorem stamp_comm (v : View) (body body' : Text) :
    (v.stamp p body).stamp q body' = (v.stamp q body').stamp p body := by
  have hqp := beside_symm hpq
  have hp : (v.stamp q body').imprint p = v.imprint p := imprint_stamp hqp body'
  have hq : (v.stamp p body).imprint q = v.imprint q := imprint_stamp hpq body
  funext l
  by_cases hfp : (v.imprint p).file = some l
  · have hfq : (v.imprint q).file ≠ some l := file_ne hpq hfp
    have hseen : l ∉ (v.imprint q).seen := fun h => file_not_seen hpq hfp (seen_imprint h)
    have h1 : (v.stamp p body).stamp q body' l = v.stamp p body l := by
      rw [stamp_of_ne (by rw [hq]; exact hfq), hq, fill_of_not_mem hseen]
    rw [h1]
    exact (if_pos hfp).trans (if_pos (by rw [hp]; exact hfp)).symm
  · by_cases hfq : (v.imprint q).file = some l
    · have hseen : l ∉ (v.imprint p).seen := fun h => file_not_seen hqp hfq (seen_imprint h)
      have h2 : (v.stamp q body').stamp p body l = v.stamp q body' l := by
        rw [stamp_of_ne (by rw [hp]; exact hfp), hp, fill_of_not_mem hseen]
      rw [h2]
      exact (if_pos (by rw [hq]; exact hfq)).trans (if_pos hfq).symm
    · have h1 : v.stamp p body l = v.fill (v.imprint p).seen l := stamp_of_ne hfp
      have h2 : v.stamp q body' l = v.fill (v.imprint q).seen l := stamp_of_ne hfq
      rw [stamp_of_ne (by rw [hq]; exact hfq), stamp_of_ne (by rw [hp]; exact hfp), hp, hq,
        fill_congr h1, fill_congr h2, fill_comm]

omit hpq

/-! What writing to one path is refused for, while others are written. -/

/-- Two views that look the same to a write, where the second one has grown out of the first. -/
structure Agrees (v v' : View) (q : Path) : Prop where
  walk : v'.walk q.parent.parts = v.walk q.parent.parts
  leaf : (v.walk q.parent.parts).bar = none → v'.leaf q.parts = v.leaf q.parts
  there : ∀ l, v l ≠ none → v' l ≠ none

theorem Agrees.refl (v : View) (q : Path) : Agrees v v q := ⟨rfl, fun _ => rfl, fun _ h => h⟩

theorem Agrees.trans (h : Agrees v v' q) (h' : Agrees v' v'' q) : Agrees v v'' q where
  walk := h'.walk.trans h.walk
  leaf := fun hb => (h'.leaf (by rw [h.walk, hb])).trans (h.leaf hb)
  there := fun l hl => h'.there l (h.there l hl)

theorem stamp_ne_none (h : v l ≠ none) : v.stamp p body l ≠ none := by
  by_cases hf : (v.imprint p).file = some l
  · have he : v.stamp p body l = some (.file (.text body)) := if_pos hf
    simp [he]
  · rw [stamp_of_ne hf]
    by_cases hm : l ∈ (v.imprint p).seen
    · simp [fill_of_mem hm]
    · rwa [fill_of_not_mem hm]

theorem agrees_stamp (hpq : p.Beside q) (v : View) (body : Text) : Agrees v (v.stamp p body) q :=
  ⟨walk_stamp hpq body, fun hb => leaf_stamp hpq hb body, fun _ hl => stamp_ne_none hl⟩

/-- Something bars the way to the directory of a path, and something before that is missing. -/
def Hindered (v : View) (q : Path) (c : FileCause) : Prop :=
  (v.walk q.parent.parts).bar = some c ∧ (v.walk q.parent.parts).lacks v

/-- Whether an error names what bars the way, or the whole directory. -/
def Names (v : View) (q : Path) (c : FileCause) (e : FileError) : Prop :=
  e = v.near q.slashes q.parent.parts c ∨ e = v.far q.slashes q.parent.parts c

theorem Agrees.hindrance (h : Agrees v v' q) {c : FileCause}
    (hb : (v.walk q.parent.parts).bar = some c) :
    v'.hindrance q.slashes q.parent.parts =
      some (if (v.walk q.parent.parts).lacks v' then v.near q.slashes q.parent.parts c
        else v.far q.slashes q.parent.parts c) := by
  unfold View.hindrance near far
  rw [h.walk, hb]
  rfl

/-- A write is refused for the same in both views, or each error names what bars the way or the
whole directory. -/
theorem refusal_alike (h : Agrees v v' q) (h' : Agrees v v'' q) :
    v'.refusal q = v''.refusal q ∨ ∃ c e e', v.Hindered q c ∧ v'.refusal q = some e ∧
      v''.refusal q = some e' ∧ v.Names q c e ∧ v.Names q c e' := by
  unfold refusal
  split
  · exact .inl rfl
  · cases hb : (v.walk q.parent.parts).bar with
    | none =>
      left
      have hopen : ∀ u, Agrees v u q → u.hindrance q.slashes q.parent.parts = none := fun u hu =>
        hindrance_of_open (by rw [hu.walk, hb])
      rw [hopen _ h, hopen _ h', h.leaf hb, h'.leaf hb]
    | some c =>
      rw [h.hindrance hb, h'.hindrance hb]
      have hnames : ∀ u : View, v.Names q c
          (if (v.walk q.parent.parts).lacks u then v.near q.slashes q.parent.parts c
            else v.far q.slashes q.parent.parts c) := by
        intro u
        split
        · exact .inl rfl
        · exact .inr rfl
      by_cases hl : (v.walk q.parent.parts).lacks v
      · exact .inr ⟨c, _, _, ⟨hb, hl⟩, rfl, rfl, hnames v', hnames v''⟩
      · have hfar : ∀ u, Agrees v u q → ¬ (v.walk q.parent.parts).lacks u := by
          rintro u hu ⟨l, hm, hnone⟩
          exact hu.there l (fun he => hl ⟨l, hm, he⟩) hnone
        left
        rw [if_neg (hfar _ h), if_neg (hfar _ h')]

end View

end TestScribe
