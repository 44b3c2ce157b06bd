import Mathlib.Data.List.Nodup
import Tailoring.CommandLine.Disk
import Tailoring.Proofs.Outcome

/-!
# Disks with more files

Files put after the entries of a disk hide none of them, and they are neither
directories nor links. So every path leads where it led before, and what was found
under it is found again. Writing files at places where nothing is comes to this.

The names listed for a directory are all under which something is found there.
-/

set_option autoImplicit false

namespace Tailoring.CommandLine

/-- A saved file as an entry of a disk. -/
def NewFile.listed (file : NewFile) : Path × Entry :=
  (file.place, .file file.content)

theorem NewFile.lookup_listed (files : List NewFile) (place : Path) :
    (files.map listed).lookup place = none ∨
      ∃ content, (files.map listed).lookup place = some (.file content) := by
  cases listing : (files.map listed).lookup place with
  | none => exact .inl rfl
  | some entry =>
      obtain ⟨before, after, split, -⟩ := List.lookup_eq_some_iff.mp listing
      have member : (place, entry) ∈ files.map listed := by simp [split]
      obtain ⟨file, -, same⟩ := List.mem_map.mp member
      cases same
      exact .inr ⟨file.content, rfl⟩

namespace Disk

/-- The disk with more files. -/
def adding (disk : Disk) (files : List NewFile) : Disk where
  entries := disk.entries ++ files.map NewFile.listed

@[simp] theorem adding_nil (disk : Disk) : disk.adding [] = disk := by
  simp [adding]

@[simp] theorem adding_adding (disk : Disk) (files more : List NewFile) :
    (disk.adding files).adding more = disk.adding (files ++ more) := by
  simp [adding]

/-! ## Places -/

theorem at?_adding (disk : Disk) (files : List NewFile) (place : Path) :
    (disk.adding files).at? place =
      (disk.at? place).or ((files.map NewFile.listed).lookup place) := by
  unfold at?
  split
  · rfl
  · exact List.lookup_append

theorem at?_adding_of_some {disk : Disk} {place : Path} {entry : Entry}
    (present : disk.at? place = some entry) (files : List NewFile) :
    (disk.adding files).at? place = some entry := by
  rw [at?_adding, present]
  rfl

/-- What is at a place changes only from nothing to a file. -/
theorem at?_adding_cases (disk : Disk) (files : List NewFile) (place : Path) :
    (disk.adding files).at? place = disk.at? place ∨
      disk.at? place = none ∧
        ∃ content, (disk.adding files).at? place = some (.file content) := by
  rw [at?_adding]
  cases disk.at? place with
  | some entry => exact .inl rfl
  | none =>
      rcases NewFile.lookup_listed files place with unlisted | ⟨content, listed⟩
      · exact .inl unlisted
      · exact .inr ⟨rfl, content, listed⟩

@[simp] theorem directoryAt_adding (disk : Disk) (files : List NewFile) :
    (disk.adding files).directoryAt = disk.directoryAt := by
  funext place
  rcases at?_adding_cases disk files place with same | ⟨absent, content, added⟩
  · rw [directoryAt, same, directoryAt]
  · rw [directoryAt, added, directoryAt, absent]
    rfl

@[simp] theorem link?_adding (disk : Disk) (files : List NewFile) :
    (disk.adding files).link? = disk.link? := by
  funext place
  rcases at?_adding_cases disk files place with same | ⟨absent, content, added⟩
  · rw [link?, same, link?]
  · rw [link?, added, link?, absent]

@[simp] theorem linkCount_adding (disk : Disk) (files : List NewFile) :
    (disk.adding files).linkCount = disk.linkCount := by
  rw [linkCount, adding, List.countP_append, List.countP_map, linkCount, Nat.add_eq_left]
  exact List.countP_eq_zero.mpr fun file _ => Bool.false_ne_true

/-! ## Paths -/

@[simp] theorem step_adding (disk : Disk) (files : List NewFile) :
    (disk.adding files).step = disk.step := by
  funext strict follow place name
  simp only [step, directoryAt_adding, link?_adding]

@[simp] theorem follow_adding (disk : Disk) (files : List NewFile) :
    (disk.adding files).follow = disk.follow := by
  funext strict depth
  induction depth with
  | zero => rfl
  | succ depth ih =>
      funext directory target
      rw [follow, step_adding, ih, follow]

@[simp] theorem find_adding (disk : Disk) (files : List NewFile) :
    (disk.adding files).find = disk.find := by
  funext path
  simp only [find, walk, step_adding, follow_adding, linkCount_adding]

theorem found?_eq_some_iff {disk : Disk} {path : Path} {entry : Entry} :
    disk.found? path = some entry ↔
      ∃ place, disk.find path = .ok place ∧ disk.at? place = some entry := by
  unfold found?
  cases disk.find path with
  | error reason => simp
  | ok place => simp

theorem found?_of_find {disk : Disk} {path place : Path} (leads : disk.find path = .ok place) :
    disk.found? path = disk.at? place := by
  simp only [found?, leads]

theorem read?_eq_some_iff {disk : Disk} {path : Path} {content : Bytes} :
    disk.read? path = some content ↔ disk.found? path = some (.file content) := by
  unfold read?
  split
  · next found => simp [found]
  · next other =>
      simp only [reduceCtorEq, false_iff]
      exact other content

theorem find_append_singleton (disk : Disk) (path : Path) (name : Text) :
    disk.find (path ++ [name]) =
      disk.find path >>= fun place =>
        disk.step true (disk.follow true disk.linkCount) place name := by
  simp [find, walk, List.foldlM_append]

theorem mem_entries_of_at? {disk : Disk} {place : Path} {entry : Entry}
    (present : disk.at? place = some entry) (below : place ≠ []) :
    (place, entry) ∈ disk.entries := by
  rw [at?, if_neg below] at present
  obtain ⟨before, after, split, -⟩ := List.lookup_eq_some_iff.mp present
  simp [split]

theorem link?_eq_some_iff {disk : Disk} {place : Path} {target : Text} :
    disk.link? place = some target ↔ disk.at? place = some (.link target) := by
  unfold link?
  split
  · next linked => simp [linked]
  · next other =>
      simp only [reduceCtorEq, false_iff]
      exact other target

/-- One name leads on to the place of that name, or follows the link there. -/
theorem step_cases {disk : Disk} {follow : Path → Text → Except Astray Path}
    {place target : Path} {name : Text} (named : Path.isName name = true)
    (went : disk.step true follow place name = .ok target) :
    disk.directoryAt place = true ∧
      (target = place ++ [name] ∨ ∃ written, disk.link? (place ++ [name]) = some written) := by
  unfold step at went
  split at went
  · cases went
  · next directory =>
      split at went
      · cases went
      · refine ⟨by simpa using directory, ?_⟩
        split at went
        · next written linked => exact .inr ⟨written, linked⟩
        · cases went
          rw [Path.step, if_pos named]
          exact .inl rfl

theorem exists_place_of_find {disk : Disk} {directory target : Path} {name : Text}
    (named : Path.isName name = true)
    (leads : disk.find (directory ++ [name]) = .ok target) :
    ∃ place, disk.find directory = .ok place ∧ disk.directoryAt place = true ∧
      (target = place ++ [name] ∨ ∃ written, disk.link? (place ++ [name]) = some written) := by
  rw [find_append_singleton] at leads
  obtain ⟨place, reached, went⟩ := Outcome.bind_eq_ok_iff.mp leads
  exact ⟨place, reached, step_cases named went⟩

theorem mem_names {disk : Disk} {directory : Path} {name : Text}
    (named : Path.isName name = true)
    (present : disk.isPresent (directory ++ [name]) = true) : name ∈ disk.names directory := by
  obtain ⟨entry, found⟩ := Option.isSome_iff_exists.mp present
  obtain ⟨target, leads, there⟩ := found?_eq_some_iff.mp found
  obtain ⟨place, reached, -, onward⟩ := exists_place_of_find named leads
  have listed : ∃ entry, (place ++ [name], entry) ∈ disk.entries := by
    rcases onward with rfl | ⟨written, linked⟩
    · exact ⟨entry, mem_entries_of_at? there (by simp)⟩
    · exact ⟨_, mem_entries_of_at? (link?_eq_some_iff.mp linked) (by simp)⟩
  obtain ⟨entry, listed⟩ := listed
  simp only [names, reached, List.mem_filter, List.mem_map, present, and_true]
  exact ⟨_, ⟨listed, by simp [Path.parent]⟩, by simp [Path.name]⟩

/-! ## New files -/

/-- The files have places of their own, where nothing is. -/
structure New (disk : Disk) (files : List NewFile) : Prop where
  free : ∀ file ∈ files, disk.at? file.place = none
  distinct : (files.map NewFile.place).Nodup

theorem at?_adding_singleton (disk : Disk) (file : NewFile) (place : Path) :
    (disk.adding [file]).at? place = none ↔
      disk.at? place = none ∧ place ≠ file.place := by
  rw [at?_adding, Option.or_eq_none_iff, List.lookup_eq_none_iff]
  simp [NewFile.listed]

theorem New.nil (disk : Disk) : disk.New [] :=
  ⟨by simp, List.nodup_nil⟩

theorem new_cons_iff {disk : Disk} {file : NewFile} {files : List NewFile} :
    disk.New (file :: files) ↔
      disk.at? file.place = none ∧ (disk.adding [file]).New files := by
  constructor
  · intro new
    obtain ⟨unrepeated, distinct⟩ := List.nodup_cons.mp new.distinct
    refine ⟨new.free file (by simp), ?_, distinct⟩
    intro later member
    rw [at?_adding_singleton]
    refine ⟨new.free later (.tail _ member), ?_⟩
    intro same
    exact unrepeated (List.mem_map.mpr ⟨later, member, same⟩)
  · intro later
    obtain ⟨free, new⟩ := later
    have apart := fun later member => (at?_adding_singleton _ _ _).mp (new.free later member)
    constructor
    · intro other member
      rcases List.mem_cons.mp member with rfl | later
      · exact free
      · exact (apart other later).1
    · refine List.nodup_cons.mpr ⟨?_, new.distinct⟩
      intro repeated
      obtain ⟨later, member, same⟩ := List.mem_map.mp repeated
      exact (apart later member).2 same

theorem write_of_free {disk : Disk} {file : NewFile} (free : disk.at? file.place = none) :
    disk.write file.place file.content = disk.adding [file] := by
  have kept : (disk.entries.filter fun entry => entry.1 != file.place) = disk.entries := by
    rw [List.filter_eq_self]
    intro entry member
    rw [bne_iff_ne]
    intro same
    unfold at? at free
    split at free
    · cases free
    · exact absurd same.symm (by simpa using List.lookup_eq_none_iff.mp free entry member)
  simp only [write, kept, adding]
  rfl

theorem New.writeAll {disk : Disk} {files : List NewFile} (new : disk.New files) :
    disk.writeAll files = disk.adding files := by
  induction files generalizing disk with
  | nil => exact disk.adding_nil.symm
  | cons file files ih =>
      obtain ⟨free, new⟩ := new_cons_iff.mp new
      have written : disk.writeAll (file :: files) =
          (disk.write file.place file.content).writeAll files := rfl
      rw [written, write_of_free free, ih new, adding_adding]
      rfl

theorem New.at? {disk : Disk} {files : List NewFile} (new : disk.New files) {file : NewFile}
    (member : file ∈ files) :
    (disk.adding files).at? file.place = some (.file file.content) := by
  induction files generalizing disk with
  | nil => cases member
  | cons first files ih =>
      obtain ⟨free, new⟩ := new_cons_iff.mp new
      have split : disk.adding (first :: files) = (disk.adding [first]).adding files := by simp
      rw [split]
      rcases List.mem_cons.mp member with rfl | later
      · apply at?_adding_of_some
        rw [at?_adding, free]
        simp [NewFile.listed]
      · exact ih new later

end Disk

end Tailoring.CommandLine
