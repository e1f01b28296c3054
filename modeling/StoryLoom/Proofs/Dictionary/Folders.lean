import StoryLoom.Command.Lint
import StoryLoom.Document.Reader
import StoryLoom.Pattern.Compile
import StoryLoom.Proofs.Dictionary.CleanLayers
import StoryLoom.Proofs.Filing.Direct

/-!
# Folders — the dictionaries of a folder, as they are checked and as a generator is built from them

- `checkedFiles`, `builtFiles` : the files that the linter takes of a folder, and those a generator takes
- `filter_isDirect_checkedFiles` : the checked files in the folder itself, by the entries of the folder
- `validate_mergeAll_dictionariesOf` : dictionaries that were read make a valid one
- `subjects_merged` : the dictionary that is checked
- `build_of_plain`, `build_of_folder` : the generator that is built, or why there is none
- `generator_takes_direct_files` : both for one folder

The linter goes down into folders, whatever their names, and takes files only. The generator takes entries of
the folder itself by their names alone, so it stumbles over a folder that is named as a dictionary file. Where
there is none, it takes those of the linter's files that lie in the folder itself.
-/

namespace StoryLoom

open Filing (Node Lookup)
open Filing.Node (isDirect ofFile ofEntry)
open GeneratorSettings (dictionariesAmong)

namespace Dictionary

variable {path : String} {entries : List (String × Node)} {files : Lookup}

/-! ## Files -/

/-- The files that the linter takes of a folder, each with its path from there. -/
def checkedFiles (entries : List (String × Node)) : List (List String × Node) :=
  ((Node.folder entries).files.filter (fun f => Command.Lint.isDictionaryFile f.1)).map ofFile

/-- What a generator takes of a folder, with its path from there. -/
def builtFiles (entries : List (String × Node)) : List (List String × Node) :=
  (dictionariesAmong entries).map ofEntry

/-- A file with its whole path as it is written, where the folder is at a path. -/
def written (path : String) (f : List String × Node) : String × Node :=
  (f.1.foldl Filing.join path, f.2)

/-- No folder that lies in a folder itself is named as a dictionary file. -/
def Plain (entries : List (String × Node)) : Prop :=
  ∀ e ∈ entries, Filing.hasExtension "ron" e.1 = true → e.2.isFolder = false

instance : Decidable (Plain entries) :=
  inferInstanceAs (Decidable (∀ e ∈ entries, Filing.hasExtension "ron" e.1 = true → e.2.isFolder = false))

/-- The linter takes the files of a folder and of all folders below it. -/
theorem sources_folder : Command.Lint.sources path (.folder entries) =
    (checkedFiles entries).map (written path) := by
  rw [checkedFiles, List.map_map]
  rfl

/-- The checked files in the folder itself are its entries that are named as dictionary files and are no
folders, in the order in which a generator takes them. -/
theorem filter_isDirect_checkedFiles : (checkedFiles entries).filter isDirect =
    ((dictionariesAmong entries).filter (fun e => !e.2.isFolder)).map ofEntry := by
  -- The generator filters before it sorts, the linter after it, and the direct files are chosen last.
  calc
    (checkedFiles entries).filter isDirect
        = (((Node.folder entries).files.filter isDirect).map ofFile).filter
            (fun f => Command.Lint.isDictionaryFile f.1) := by
      rw [checkedFiles, List.filter_map, List.filter_map, List.filter_comm]
      rfl
    _ = (((entries.filter (fun e => !e.2.isFolder)).mergeSort Filing.byName).map ofEntry).filter
          (fun f => Command.Lint.isDictionaryFile f.1) := by
      rw [Node.direct_files]
    _ = (((entries.mergeSort Filing.byName).filter (fun e => !e.2.isFolder)).filter
          (fun e => Filing.hasExtension "ron" e.1)).map ofEntry := by
      rw [List.filter_map, Filing.mergeSort_filter Filing.byName_trans Filing.byName_total]
      rfl
    _ = ((dictionariesAmong entries).filter (fun e => !e.2.isFolder)).map ofEntry := by
      rw [List.filter_comm, ← Filing.mergeSort_filter Filing.byName_trans Filing.byName_total]
      rfl

theorem mem_dictionariesAmong {e : String × Node} :
    e ∈ dictionariesAmong entries ↔ e ∈ entries ∧ Filing.hasExtension "ron" e.1 = true := by
  rw [dictionariesAmong, List.mem_mergeSort, List.mem_filter]

/-- Where no folder is named as a dictionary file, a generator takes the checked files in the folder itself.
-/
theorem builtFiles_of_plain (plain : Plain entries) :
    builtFiles entries = (checkedFiles entries).filter isDirect := by
  have noFolder : (dictionariesAmong entries).filter (fun e => !e.2.isFolder) = dictionariesAmong entries := by
    refine List.filter_eq_self.2 ?_
    intro e he
    rcases mem_dictionariesAmong.1 he with ⟨there, named⟩
    rw [plain e there named]
    rfl
  rw [filter_isDirect_checkedFiles, noFolder, builtFiles]

/-- What a check finds of the dictionary files in whatever order, it finds of them as they are checked. -/
theorem forall_checkedFiles {p : List String × Node → Bool}
    (h : ((Node.filesAmong [] entries).filter (fun f => Command.Lint.isDictionaryFile f.1)).all
      (fun f => p (ofFile f)) = true) : ∀ f ∈ checkedFiles entries, p f = true := by
  intro f hf
  rcases List.mem_map.1 hf with ⟨file, found, rfl⟩
  rcases List.mem_filter.1 found with ⟨listed, named⟩
  have below : file ∈ Node.filesAmong [] entries := List.mem_mergeSort.1 listed
  exact List.all_eq_true.1 h file (List.mem_filter.2 ⟨below, named⟩)

/-! ## Reading -/

section Read

variable [PatternLibrary]

theorem patternsReadable_blank : blank.PatternsReadable where
  naming pattern h := by cases h
  values name entry h := by cases h

variable [DocumentLibrary]

def dictionariesOf (files : List (List String × Node)) : List Dictionary :=
  files.filterMap fun f => (ofNode f.2).toOption

/-- Every dictionary file of a folder and of the folders below it can be read. -/
def AllLoad (entries : List (String × Node)) : Prop :=
  ∀ f ∈ checkedFiles entries, ∃ d, ofNode f.2 = .ok d

/-- A check that can be run on the files of a folder. -/
theorem allLoad_of_isOk
    (h : ((Node.filesAmong [] entries).filter (fun f => Command.Lint.isDictionaryFile f.1)).all
      (fun f => (ofNode (ofFile f).2).isOk) = true) : AllLoad entries :=
  fun f hf => Results.exists_of_isOk (forall_checkedFiles (p := fun f => (ofNode f.2).isOk) h f hf)

/-- A file is loaded only if its patterns can be read. -/
theorem patternsReadable_of_ofNode {node : Node} {d : Dictionary} (h : ofNode node = .ok d) :
    d.PatternsReadable := by
  rcases Results.bind_eq_ok_iff.1 h with ⟨text, -, h⟩
  unfold read at h
  split at h
  · cases h
  · rcases Results.bind_eq_ok_iff.1 h with ⟨⟨⟩, valid, same⟩
    cases same
    exact validate_eq_ok_iff.1 valid

/-- Dictionaries that were read, laid over each other, are valid. -/
theorem validate_mergeAll_dictionariesOf (taken : List (List String × Node)) :
    (blank.mergeAll (dictionariesOf taken)).validate = .ok () := by
  refine validate_eq_ok_iff.2 (patternsReadable_blank.mergeAll ?_)
  intro layer h
  rcases List.mem_filterMap.1 h with ⟨f, -, read⟩
  cases opened : ofNode f.2 with
  | error e =>
    rw [opened] at read
    cases read
  | ok d =>
    rw [opened] at read
    cases read
    exact patternsReadable_of_ofNode opened

/-! ## Checking -/

theorem labelled_written (path : String) (taken : List (List String × Node)) :
    ((Command.Lint.load (taken.map (written path))).filterMap Command.Lint.Loaded.labelled?).map Prod.snd =
      dictionariesOf taken := by
  rw [Command.Lint.load, List.map_map, List.filterMap_map, List.map_filterMap, dictionariesOf]
  refine List.filterMap_congr ?_
  intro f _
  cases opened : ofNode f.2 with
  | error e => simp [Command.Lint.Loaded.labelled?, written, opened, Except.toOption]
  | ok d => simp [Command.Lint.Loaded.labelled?, written, opened, Except.toOption]

/-- The dictionary that is checked is that of all files, laid over each other in their order. -/
theorem subjects_merged :
    Command.Lint.subjects true (Command.Lint.load (Command.Lint.sources path (.folder entries))) =
      [("merged dictionary", blank.mergeAll (dictionariesOf (checkedFiles entries)))] := by
  rw [sources_folder, Command.Lint.subjects, if_pos rfl, labelled_written]

/-! ## Building -/

/-- A folder is no dictionary, whatever its name. -/
theorem ofNode_of_isFolder {node : Node} (folder : node.isFolder = true) :
    ofNode node = .error (.unreadable .isFolder) := by
  cases node with
  | file text => cases folder
  | folder inner => rfl

/-- What a generator takes of a folder can be read, but for folders. -/
theorem ofNode_of_mem (loads : AllLoad entries) {e : String × Node} (he : e ∈ dictionariesAmong entries)
    (file : e.2.isFolder = false) : ∃ d, ofNode e.2 = .ok d := by
  have kept : e ∈ (dictionariesAmong entries).filter (fun e => !e.2.isFolder) :=
    List.mem_filter.2 ⟨he, by rw [file]; rfl⟩
  have direct : ofEntry e ∈ (checkedFiles entries).filter isDirect := by
    rw [filter_isDirect_checkedFiles]
    exact List.mem_map_of_mem kept
  exact loads (ofEntry e) (List.mem_filter.1 direct).1

section Building

variable (there : files path = .ok (.folder entries))

include there

/-- A generator takes the entries that are named as dictionaries, folders among them. -/
theorem folderLayers_eq : GeneratorSettings.folderLayers { folder := some path } files =
    (dictionariesAmong entries).mapM fun e => (ofNode e.2).mapError .dictionary := by
  simp only [GeneratorSettings.folderLayers, there]
  rfl

/-- If all files can be read, a folder that is named as a dictionary file is why nothing is built. -/
theorem build_of_folder (loads : AllLoad entries) (folder : ¬Plain entries) :
    GeneratorSettings.build { folder := some path } files =
      .error (.dictionary (.unreadable .isFolder)) := by
  have named : ∃ e ∈ entries, Filing.hasExtension "ron" e.1 = true ∧ e.2.isFolder = true := by
    simpa [Plain] using folder
  rcases named with ⟨e, here, named, isFolder⟩
  have failed : GeneratorSettings.folderLayers { folder := some path } files =
      .error (.dictionary (.unreadable .isFolder)) := by
    rw [folderLayers_eq there]
    -- All other entries are read or fail the same way, so this is the error however many folders there are.
    refine Results.mapM_eq_error_of_mem (a := e) ?_ (mem_dictionariesAmong.2 ⟨here, named⟩) ?_
    · rw [ofNode_of_isFolder isFolder]
      rfl
    · intro other hother
      cases kind : other.2.isFolder with
      | true =>
        refine .inl ?_
        rw [ofNode_of_isFolder kind]
        rfl
      | false =>
        rcases ofNode_of_mem loads hother kind with ⟨d, read⟩
        refine .inr ⟨d, ?_⟩
        rw [read]
        rfl
  simp only [GeneratorSettings.build, failed]
  rfl

/-- If all files can be read and no folder is so named, the generator is built from all that it takes. -/
theorem build_of_plain (loads : AllLoad entries) (plain : Plain entries) :
    ∃ made, GeneratorSettings.build { folder := some path } files = .ok made ∧
      made.dictionary = blank.mergeAll (dictionariesOf (builtFiles entries)) := by
  -- With no folder among them, all the entries that are taken are files.
  have each : ∀ e ∈ dictionariesAmong entries,
      ∃ d, (ofNode e.2).mapError GeneratorError.dictionary = .ok d := by
    intro e he
    rcases mem_dictionariesAmong.1 he with ⟨here, named⟩
    rcases ofNode_of_mem loads he (plain e here named) with ⟨d, read⟩
    refine ⟨d, ?_⟩
    rw [read]
    rfl
  have layers : GeneratorSettings.folderLayers { folder := some path } files =
      .ok (dictionariesOf (builtFiles entries)) := by
    rw [folderLayers_eq there, Results.mapM_eq_ok_of_forall each, dictionariesOf, builtFiles, List.filterMap_map]
    simp only [Results.toOption_mapError]
    rfl
  have dictionary : GeneratorSettings.layered { folder := some path }
      (dictionariesOf (builtFiles entries) ++ []) =
        blank.mergeAll (dictionariesOf (builtFiles entries)) := by
    rw [List.append_nil]
    rfl
  have valid := validate_mergeAll_dictionariesOf (builtFiles entries)
  rw [← dictionary] at valid
  exact ⟨_, build_eq_ok_iff.2 ⟨_, [], layers, rfl, valid, rfl⟩, dictionary⟩

end Building

/-! ## Side by side -/

/-- A folder with no folder in it that is named as a dictionary file, where all dictionary files can be read.
The dictionary that is checked is that of all files at or below the folder, in the order of paths. The generator
is built, it takes those of the checked files that lie in the folder itself, in the same order, and its dictionary
is theirs. So both take the same files just if none lies in a folder below, and then the dictionary that is
checked is that of the generator. -/
theorem generator_takes_direct_files (files : Lookup) (path : String) (entries : List (String × Node))
    (there : files path = .ok (.folder entries)) (loads : AllLoad entries) (plain : Plain entries) :
    let g : GeneratorSettings := { folder := some path }
    let loaded := Command.Lint.load ((checkedFiles entries).map (written path))
    (path ≠ "--help" → path ≠ "-h" →
      Command.lint [path, "--merged"] files = Command.Lint.report true loaded) ∧
    Command.Lint.subjects true loaded =
      [("merged dictionary", blank.mergeAll (dictionariesOf (checkedFiles entries)))] ∧
    builtFiles entries = (checkedFiles entries).filter isDirect ∧
    (builtFiles entries = checkedFiles entries ↔ ∀ f ∈ checkedFiles entries, isDirect f = true) ∧
    ∃ made, g.build files = .ok made ∧
      made.dictionary = blank.mergeAll (dictionariesOf (builtFiles entries)) ∧
      ((∀ f ∈ checkedFiles entries, isDirect f = true) →
        Command.Lint.subjects true loaded = [("merged dictionary", made.dictionary)]) := by
  intro g loaded
  have checked : Command.Lint.subjects true loaded =
      [("merged dictionary", blank.mergeAll (dictionariesOf (checkedFiles entries)))] := by
    rw [← subjects_merged, sources_folder]
  -- Entries of the folder and files below it are told apart by the length of their paths.
  have taken := builtFiles_of_plain plain
  have same : builtFiles entries = checkedFiles entries ↔
      ∀ f ∈ checkedFiles entries, isDirect f = true := by
    rw [taken]
    exact List.filter_eq_self
  rcases build_of_plain there loads plain with ⟨made, built, dictionary⟩
  refine ⟨?_, checked, taken, same, made, built, dictionary, ?_⟩
  · intro noHelp noShort
    have run : Command.lint [path, "--merged"] files = Command.Lint.run files path true := by
      simp [Command.lint, noHelp, noShort]
    rw [run, Command.Lint.run, there]
    exact congrArg (fun sources => Command.Lint.report true (Command.Lint.load sources)) sources_folder
  · intro direct
    rw [checked, dictionary, same.2 direct]

end Read

open Libraries

/-- A folder by itself. -/
def onlyFolder (entries : List (String × Node)) : Lookup := fun path =>
  if path = "d" then .ok (.folder entries) else .error .missing

def baseFile : Node := .file "(name: \"Base\")"

def wordsFile : Node := .file "(name: \"Words\", reserved_words: [\"if\"])"

/-- Two dictionaries, not in the order of their names, and a folder that has none. -/
def flat : List (String × Node) :=
  [("words.ron", wordsFile), ("drafts", .folder [("todo.txt", .file "")]), ("base.ron", baseFile)]

/-- With no dictionaries in folders below, the dictionary of the generator is the one that is checked. -/
theorem flat_built_as_checked : ∃ made,
    GeneratorSettings.build { folder := some "d" } (onlyFolder flat) = .ok made ∧
      builtFiles flat = checkedFiles flat ∧
      Command.Lint.subjects true (Command.Lint.load ((checkedFiles flat).map (written "d"))) =
        [("merged dictionary", made.dictionary)] := by
  have loads : AllLoad flat := allLoad_of_isOk (by decide +kernel)
  have plain : Plain flat := by decide +kernel
  have direct : ∀ f ∈ checkedFiles flat, isDirect f = true := forall_checkedFiles (by decide +kernel)
  rcases generator_takes_direct_files (onlyFolder flat) "d" flat rfl loads plain with
    ⟨-, -, -, same, made, built, -, agree⟩
  exact ⟨made, built, same.2 direct, agree direct⟩

/-- A dictionary and a folder that has another one. -/
def nested : List (String × Node) :=
  [("base.ron", baseFile), ("sub", .folder [("words.ron", wordsFile)])]

/-- The same where the folder is named as a dictionary file. -/
def misnamed : List (String × Node) :=
  [("base.ron", baseFile), ("sub.ron", .folder [("words.ron", wordsFile)])]

theorem checkedFiles_nested :
    checkedFiles nested = [(["base.ron"], baseFile), (["sub", "words.ron"], wordsFile)] := by
  have sorted : (Node.filesAmong [] nested).Pairwise (fun a b => Filing.byPath a b = true) := by
    decide +kernel
  have listed : (Node.folder nested).files = Node.filesAmong [] nested := List.mergeSort_of_pairwise sorted
  rw [checkedFiles, listed]
  rfl

/-- Though all files can be read, a dictionary in a folder below is checked and not taken, and a folder that is
named as a dictionary file keeps the generator from being built. -/
theorem folder_below_not_taken :
    (AllLoad nested ∧ ∃ made,
      GeneratorSettings.build { folder := some "d" } (onlyFolder nested) = .ok made ∧
        builtFiles nested ≠ checkedFiles nested ∧
        Command.Lint.subjects true (Command.Lint.load (Command.Lint.sources "d" (.folder nested))) ≠
          [("merged dictionary", made.dictionary)]) ∧
    (AllLoad misnamed ∧ ∀ made,
      GeneratorSettings.build { folder := some "d" } (onlyFolder misnamed) ≠ .ok made) := by
  have readNested : AllLoad nested := allLoad_of_isOk (by decide +kernel)
  have readMisnamed : AllLoad misnamed := allLoad_of_isOk (by decide +kernel)
  have plain : Plain nested := by decide +kernel
  have folder : ¬Plain misnamed := by decide +kernel
  refine ⟨⟨readNested, ?_⟩, readMisnamed, ?_⟩
  · have there : onlyFolder nested "d" = .ok (.folder nested) := rfl
    rcases build_of_plain there readNested plain with ⟨made, built, dictionary⟩
    have taken : builtFiles nested = [(["base.ron"], baseFile)] := by
      rw [builtFiles_of_plain plain, checkedFiles_nested]
      rfl
    refine ⟨made, built, ?_, ?_⟩
    · rw [taken, checkedFiles_nested]
      exact nofun
    · rw [subjects_merged, checkedFiles_nested, dictionary, taken]
      intro same
      -- The words of the dictionary below are the difference.
      have words := congrArg (List.map fun s => s.2.reservedWords) same
      revert words
      decide +kernel
  · have there : onlyFolder misnamed "d" = .ok (.folder misnamed) := rfl
    intro made built
    rw [build_of_folder there readMisnamed folder] at built
    cases built

end Dictionary
end StoryLoom
