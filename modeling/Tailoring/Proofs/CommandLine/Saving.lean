import Tailoring.CommandLine.Run
import Tailoring.Proofs.CommandLine.Disk
import Tailoring.Proofs.CommandLine.OutputName
import Tailoring.Proofs.Outcome

/-!
# Saving products

Products are saved one after the other, each under a name that leads to nothing
when its turn comes. The files saved before it are among those that it finds, so
all new files have names and places of their own.
-/

set_option autoImplicit false

namespace Tailoring

/-! ## Bytes of a text -/

theorem CodePoint.ofChar_of_toChar? {point : CodePoint} {character : Char}
    (read : point.toChar? = some character) : CodePoint.ofChar character = point := by
  unfold toChar? at read
  by_cases valid : point.val.isValidChar
  · rw [dif_pos valid] at read
    cases read
    rfl
  · rw [dif_neg valid] at read
    cases read

theorem Text.eq_ofString_of_toString? {text : Text} {string : String}
    (read : text.toString? = some string) : text = Text.ofString string := by
  obtain ⟨characters, each, rfl⟩ := Option.map_eq_some_iff.mp read
  have points := Outcome.mapM_eq_some_iff.mp each
  rw [Text.ofString, String.toList_ofList, ← List.forall₂_eq_eq_eq, List.forall₂_map_right_iff]
  exact points.imp fun point character read => (CodePoint.ofChar_of_toChar? read).symm

theorem Text.exists_string_of_utf8? {text : Text} {bytes : Bytes}
    (written : text.utf8? = some bytes) :
    ∃ string : String, text = Text.ofString string ∧ bytes = string.toUTF8.data.toList := by
  obtain ⟨string, read, rfl⟩ := Option.map_eq_some_iff.mp written
  exact ⟨string, Text.eq_ofString_of_toString? read, rfl⟩

namespace CommandLine

/-! ## New files -/

namespace Job

theorem found?_fileName (directory : Path) (stem : Text) (disk : Disk) (product : Product) :
    disk.found? (directory ++ [fileName directory stem disk product]) = none := by
  by_contra present
  have present : disk.isPresent (directory ++ [fileName directory stem disk product]) = true :=
    Option.isSome_iff_ne_none.mpr present
  have named := OutputName.isName_choose (disk.names directory) stem product.suffix
  exact OutputName.choose_not_mem _ _ _ (Disk.mem_names named present)

end Job

/-- The file is made for the product: it has its content in UTF-8, and a name in the
directory that leads to its place, where nothing is. -/
structure Fresh (disk : Disk) (directory : Path) (product : Product) (file : NewFile) : Prop where
  content : ∃ string : String,
    product.content = Text.ofString string ∧ file.content = string.toUTF8.data.toList
  named : Path.isName file.name = true
  leads : disk.find (directory ++ [file.name]) = .ok file.place
  free : disk.at? file.place = none

/-- Of the products one cannot be written under the path: that leads nowhere, or the
product has a surrogate. -/
def Unwritable (disk : Disk) (path : Path) (products : List Product) : Prop :=
  (∃ reason, disk.find path = .error reason) ∨
    ∃ product ∈ products, product.content.utf8? = none

/-- Files made one after the other, each beside those before it. -/
inductive Saving (directory : Path) : Disk → List Product → List NewFile → Prop where
  | nil {disk} : Saving directory disk [] []
  | cons {disk product file products files} :
      Fresh disk directory product file → Saving directory (disk.adding [file]) products files →
      Saving directory disk (product :: products) (file :: files)

theorem Unwritable.mono {disk : Disk} {path : Path} {products more : List Product}
    (unwritable : Unwritable disk path products) (among : products ⊆ more) :
    Unwritable disk path more := by
  rcases unwritable with astray | ⟨product, member, surrogate⟩
  · exact .inl astray
  · exact .inr ⟨product, among member, surrogate⟩

theorem unwritable_adding_iff {disk : Disk} {files : List NewFile} {path : Path}
    {products : List Product} :
    Unwritable (disk.adding files) path products ↔ Unwritable disk path products := by
  rw [Unwritable, Disk.find_adding, Unwritable]

namespace Job

theorem fresh_of_newFile? {directory : Path} {stem : Text} {disk : Disk} {product : Product}
    {file : NewFile} (made : newFile? directory stem disk product = some file) :
    Fresh disk directory product file := by
  simp only [newFile?] at made
  split at made
  · next place content leads written =>
      cases made
      have absent := found?_fileName directory stem disk product
      exact {
        content := Text.exists_string_of_utf8? written
        named := OutputName.isName_choose (disk.names directory) stem product.suffix
        leads := leads
        free := (Disk.found?_of_find leads).symm.trans absent }
  · cases made

theorem unwritable_of_newFile? {directory : Path} {stem : Text} {disk : Disk} {product : Product}
    (unmade : newFile? directory stem disk product = none) :
    Unwritable disk (directory ++ [fileName directory stem disk product]) [product] := by
  simp only [newFile?] at unmade
  split at unmade
  · cases unmade
  · next refused =>
      cases leads : disk.find (directory ++ [fileName directory stem disk product]) with
      | error reason => exact .inl ⟨reason, leads⟩
      | ok place =>
          cases written : product.content.utf8? with
          | none => exact .inr ⟨product, .head _, written⟩
          | some content => exact absurd written (refused place content leads)

theorem save_of_unmade {directory : Path} {stem : Text} {disk : Disk} {product : Product}
    (unmade : newFile? directory stem disk product = none) (products : List Product) :
    save directory stem disk (product :: products) =
      ([], some (directory ++ [fileName directory stem disk product])) := by
  rw [save, unmade]

theorem save_of_made {directory : Path} {stem : Text} {disk : Disk} {product : Product}
    {file : NewFile} (made : newFile? directory stem disk product = some file)
    (products : List Product) :
    save directory stem disk (product :: products) =
      let (files, failure) := save directory stem (disk.adding [file]) products
      (file :: files, failure) := by
  simp only [save, made, Disk.write_of_free (fresh_of_newFile? made).free]

/-- Saving goes on to the end, or up to a product that cannot be written. -/
theorem save_saving (directory : Path) (stem : Text) (disk : Disk) (products : List Product) :
    ∃ made, Saving directory disk made (save directory stem disk products).1 ∧
      ((save directory stem disk products).2 = none → made = products) := by
  induction products generalizing disk with
  | nil => exact ⟨[], .nil, fun _ => rfl⟩
  | cons product products ih =>
      cases tried : newFile? directory stem disk product with
      | none =>
          rw [save_of_unmade tried]
          exact ⟨[], .nil, nofun⟩
      | some file =>
          rw [save_of_made tried]
          obtain ⟨made, saving, complete⟩ := ih (disk.adding [file])
          exact ⟨product :: made, .cons (fresh_of_newFile? tried) saving,
            fun unfailed => congrArg _ (complete unfailed)⟩

theorem unwritable_of_save {directory : Path} {stem : Text} {disk : Disk}
    {products : List Product} {path : Path}
    (failed : (save directory stem disk products).2 = some path) :
    Unwritable disk path products := by
  induction products generalizing disk with
  | nil => cases failed
  | cons product products ih =>
      cases tried : newFile? directory stem disk product with
      | none =>
          rw [save_of_unmade tried] at failed
          cases failed
          exact (unwritable_of_newFile? tried).mono (by simp)
      | some file =>
          rw [save_of_made tried] at failed
          exact (unwritable_adding_iff.mp (ih failed)).mono (List.subset_cons_self product products)

end Job

/-- The files hold the products in UTF-8, one for each and in order, at places of their
own where nothing was. In the directory they have names of their own that led to
nothing before, and under these names they are found from then on. A file lies in the
directory itself, unless there is a link with its name: then it lies where that leads. -/
structure Saves (disk : Disk) (directory : Path) (products : List Product)
    (files : List NewFile) : Prop where
  contents : ∃ strings : List String,
    products.map Product.content = strings.map Text.ofString ∧
      files.map NewFile.content = strings.map (·.toUTF8.data.toList)
  new : disk.New files
  distinct : (files.map NewFile.name).Nodup
  absent : ∀ file ∈ files, disk.found? (directory ++ [file.name]) = none
  found : ∀ file ∈ files,
    (disk.adding files).read? (directory ++ [file.name]) = some file.content
  inside : ∀ file ∈ files, ∃ place,
    disk.find directory = .ok place ∧ disk.directoryAt place = true ∧
      (file.place = place ++ [file.name] ∨
        ∃ target, disk.link? (place ++ [file.name]) = some target)

namespace Saving

variable {disk : Disk} {directory : Path} {products : List Product} {files : List NewFile}

theorem new (saving : Saving directory disk products files) : disk.New files := by
  induction saving with
  | nil => exact .nil _
  | cons fresh _ ih => exact Disk.new_cons_iff.mpr ⟨fresh.free, ih⟩

theorem contents (saving : Saving directory disk products files) :
    ∃ strings : List String,
      products.map Product.content = strings.map Text.ofString ∧
        files.map NewFile.content = strings.map (·.toUTF8.data.toList) := by
  induction saving with
  | nil => exact ⟨[], rfl, rfl⟩
  | cons fresh _ ih =>
      obtain ⟨string, product, file⟩ := fresh.content
      obtain ⟨strings, products, files⟩ := ih
      exact ⟨string :: strings, by simp [product, products], by simp [file, files]⟩

theorem leads (saving : Saving directory disk products files) :
    ∀ file ∈ files, Path.isName file.name = true ∧
      disk.find (directory ++ [file.name]) = .ok file.place := by
  induction saving with
  | nil => simp
  | cons fresh _ ih =>
      intro file member
      rcases List.mem_cons.mp member with rfl | later
      · exact ⟨fresh.named, fresh.leads⟩
      · simpa using ih file later

theorem saves (saving : Saving directory disk products files) :
    Saves disk directory products files where
  contents := saving.contents
  new := saving.new
  distinct := by
    -- Names that are the same lead to the same place, and the places differ.
    refine List.Nodup.of_map (fun name => disk.find (directory ++ [name])) ?_
    have places : (files.map NewFile.name).map (fun name => disk.find (directory ++ [name])) =
        (files.map NewFile.place).map Except.ok := by
      rw [List.map_map, List.map_map, List.map_inj_left]
      intro file member
      exact (saving.leads file member).2
    rw [places]
    exact saving.new.distinct.map fun _ _ => Except.ok.inj
  absent := by
    intro file member
    rw [Disk.found?_of_find (saving.leads file member).2]
    exact saving.new.free file member
  found := by
    intro file member
    have leads := (saving.leads file member).2
    rw [← Disk.find_adding disk files] at leads
    rw [Disk.read?_eq_some_iff, Disk.found?_of_find leads]
    exact saving.new.at? member
  inside := by
    intro file member
    obtain ⟨named, leads⟩ := saving.leads file member
    exact Disk.exists_place_of_find named leads

end Saving

end CommandLine

end Tailoring
