import FieldOrder.Proofs.Files.Collect
import FieldOrder.Proofs.Files.Location

namespace FieldOrder

open FileTree hiding none

/-- Is what is below a directory to be walked to? No directory strictly between is closed or
ignored, and what is below is not ignored itself. -/
structure Shown (ignore : String → Bool) (location below : List String) : Prop where
  directories : ∀ between name rest, below = between ++ name :: rest → rest ≠ [] →
    name ∉ closedDirectories ∧
      ignore (Path.joinNames (location ++ between ++ [name]) ++ "/") = false
  itself : ignore (Path.joinNames (location ++ below)) = false

/-- The name at the end, its case aside, has one of the extensions. -/
def HasExtension (extensions location : List String) : Prop :=
  ∃ name ∈ location.getLast?, Text.lower (Path.extensionOf name) ∈ extensions

theorem hasExtension_append {extensions location below : List String} (notHere : below ≠ []) :
    HasExtension extensions (location ++ below) ↔ HasExtension extensions below := by
  rw [HasExtension, HasExtension, List.getLast?_append_of_ne_nil _ notHere]

namespace Shown
variable {ignore : String → Bool} {location rest : List String} {name next : String}

theorem singleton_iff : Shown ignore location [name] ↔
    ignore (Path.joinNames (location ++ [name])) = false := by
  refine ⟨Shown.itself, fun shown => ⟨fun between other rest eq below => ?_, shown⟩⟩
  cases between with
  | nil =>
    cases eq
    exact absurd rfl below
  | cons first between => simp at eq

theorem cons_iff : Shown ignore location (name :: next :: rest) ↔
    (name ∉ closedDirectories ∧ ignore (Path.joinNames (location ++ [name]) ++ "/") = false) ∧
      Shown ignore (location ++ [name]) (next :: rest) := by
  constructor
  · intro shown
    have first := shown.directories [] name (next :: rest) rfl (List.cons_ne_nil _ _)
    rw [List.append_nil] at first
    refine ⟨first, fun between other after eq below => ?_, ?_⟩
    · have deeper := shown.directories (name :: between) other after (by rw [eq]; rfl) below
      simpa using deeper
    · simpa using shown.itself
  · rintro ⟨first, shown⟩
    refine ⟨fun between other after eq below => ?_, ?_⟩
    · cases between with
      | nil =>
        cases eq
        rw [List.append_nil]
        exact first
      | cons _ between =>
        obtain ⟨rfl, later⟩ := List.cons.inj eq
        simpa using shown.directories between other after later below
    · simpa using shown.itself

end Shown

theorem Filter.reaches_iff {f : Filter} {location below : List String} :
    f.Reaches location below ↔
      HasExtension f.extensions below ∧ Shown f.ignore location below := by
  induction below generalizing location with
  | nil => simp [Reaches, HasExtension]
  | cons name rest ih =>
    cases rest with
    | nil =>
      rw [Reaches, Shown.singleton_iff]
      simp [takesFile, hasExtension, HasExtension]
    | cons next rest =>
      rw [Reaches, ih, Shown.cons_iff, HasExtension, HasExtension, List.getLast?_cons_cons]
      simp only [enters, Bool.and_eq_true, Bool.not_eq_true', List.contains_eq_mem,
        decide_eq_false_iff_not]
      exact and_left_comm

namespace Workspace
variable {w : Workspace}

/-- The target leads to the location, or to a directory above it with nothing between that is to be
passed over. Patterns are for names from the current directory on. -/
def Covers (w : Workspace) (ignore : String → Bool) (target : Path) (location : List String) :
    Prop :=
  w.Leads target location ∨
    ∃ dir below, w.Leads target (w.current ++ dir) ∧
      location = w.current ++ dir ++ below ∧ below ≠ [] ∧ Shown ignore dir below

/-- No target leads out of the current directory. -/
def Inside (w : Workspace) (targets : List Path) : Prop :=
  ∀ target ∈ targets, ∀ start, w.Leads target start → w.current <+: start

section
variable {filter : Filter} {target : Path} {files : List FoundFile} (linkFree : w.tree.LinkFree)
include linkFree

theorem foundFile_of_linkFree (path : List String) :
    w.foundFile path = .ok (some { location := path, name := w.nameOf path }) := by
  unfold foundFile
  split
  · next target there => exact absurd there (linkFree.at?_ne path target)
  · rfl

theorem filesBelow_of_linkFree (dir : List String) (t : FileTree) :
    w.filesBelow filter (w.current ++ dir) t = .ok ((filter.walk dir t).map fun path =>
      { location := w.current ++ path, name := w.nameOf (w.current ++ path) }) := by
  have inside : w.current.isPrefixOf (w.current ++ dir) = true := by simp
  rw [filesBelow, if_pos inside, List.drop_left]
  simp only [foundFile_of_linkFree linkFree]
  refine (congrArg (· >>= _) (List.mapM_pure ..)).trans ?_
  simp [pure, Except.pure, ok_bind]

omit linkFree in
theorem filesOf_of_leads {location : List String} (leads : w.Leads target location) :
    w.filesOf filter target = w.filesAt filter target location := by
  rw [filesOf, find?, show w.locate (w.fullName target) target = .ok location from leads]

/-- A found file has the name of its location, or the one that the target gives it. -/
theorem name_of_filesAt {dir : List String} {f : FoundFile}
    (h : w.filesAt filter target (w.current ++ dir) = .ok files) (mem : f ∈ files) :
    f.name = w.nameOf f.location ∨
      f.location = w.current ++ dir ∧ f.name = w.fullName target := by
  rw [filesAt] at h
  split at h
  · rw [filesBelow_of_linkFree linkFree] at h
    cases h
    obtain ⟨found, -, rfl⟩ := List.mem_map.mp mem
    exact .inl rfl
  · cases h
    split at mem
    · obtain rfl := List.mem_singleton.mp mem
      exact .inr ⟨rfl, rfl⟩
    · cases mem

theorem exists_filesAt (dir : List String) :
    ∃ files, w.filesAt filter target (w.current ++ dir) = .ok files := by
  rw [filesAt]
  split
  · exact ⟨_, filesBelow_of_linkFree linkFree _ _⟩
  · exact ⟨_, rfl⟩

/-- The files of a directory are those below it that have an extension and are shown. -/
theorem mem_walk_iff_shown {dir : List String} {t : FileTree} (proper : w.tree.Proper)
    (there : w.tree.at? (w.current ++ dir) = some t) {location : List String} :
    (∃ path ∈ filter.walk dir t, w.current ++ path = location) ↔
      ∃ below, location = w.current ++ dir ++ below ∧ (w.tree.fileAt? location).isSome ∧
        HasExtension filter.extensions below ∧ Shown filter.ignore dir below := by
  have isFile_iff (below : List String) : Filter.LeadsToLeaf t below ↔
      (w.tree.fileAt? (w.current ++ dir ++ below)).isSome := by
    have same : w.tree.at? (w.current ++ dir ++ below) = t.at? below := by
      rw [at?_append, there, Option.bind_some]
    rw [fileAt?_isSome_iff, same]
    constructor
    · rintro ⟨leaf, found, isLeaf⟩
      cases leaf with
      | file bytes => exact ⟨bytes, found⟩
      | directory entries => cases isLeaf
      | link target => exact absurd (same.trans found) (linkFree.at?_ne _ target)
    · rintro ⟨bytes, found⟩
      exact ⟨.file bytes, found, rfl⟩
  simp only [filter.mem_walk_iff dir t (proper.at? there), Filter.reaches_iff, isFile_iff]
  constructor
  · rintro ⟨_, ⟨below, rfl, isFile, extension, shown⟩, rfl⟩
    rw [← List.append_assoc]
    exact ⟨below, rfl, isFile, extension, shown⟩
  · rintro ⟨below, rfl, isFile, extension, shown⟩
    exact ⟨dir ++ below, ⟨below, rfl, isFile, extension, shown⟩, (List.append_assoc ..).symm⟩

theorem mem_filesAt_iff (proper : w.tree.Proper) (inDirectory : w.InDirectory) {dir : List String}
    (leads : w.Leads target (w.current ++ dir))
    (h : w.filesAt filter target (w.current ++ dir) = .ok files) {location : List String} :
    (∃ f ∈ files, f.location = location) ↔ (w.tree.fileAt? location).isSome ∧
      HasExtension filter.extensions location ∧ w.Covers filter.ignore target location := by
  -- What is covered besides the target itself is below it.
  have covers : w.Covers filter.ignore target location ↔ w.current ++ dir = location ∨
      ∃ below, location = w.current ++ dir ++ below ∧ below ≠ [] ∧
        Shown filter.ignore dir below := by
    have located : w.locate (w.fullName target) target = .ok (w.current ++ dir) := leads
    simp [Covers, Leads, located]
  rw [covers]
  rw [filesAt] at h
  split at h
  next entries there =>
    rw [filesBelow_of_linkFree linkFree] at h
    cases h
    simp only [List.mem_map, exists_exists_and_eq_and]
    rw [mem_walk_iff_shown linkFree proper there]
    constructor
    · rintro ⟨below, rfl, isFile, extension, shown⟩
      have notHere : below ≠ [] := by
        rintro rfl
        simp [HasExtension] at extension
      exact ⟨isFile, (hasExtension_append notHere).mpr extension,
        .inr ⟨below, rfl, notHere, shown⟩⟩
    · rintro ⟨isFile, extension, rfl | ⟨below, rfl, notHere, shown⟩⟩
      · simp [fileAt?, there] at isFile
      · exact ⟨below, rfl, isFile, (hasExtension_append notHere).mp extension, shown⟩
  next noDirectory =>
    cases h
    obtain ⟨bytes, there⟩ : ∃ bytes, w.tree.at? (w.current ++ dir) = some (.file bytes) := by
      obtain ⟨t, there⟩ := Option.isSome_iff_exists.mp (leads.isSome_at? linkFree inDirectory)
      cases t with
      | file bytes => exact ⟨bytes, there⟩
      | directory entries => exact absurd there (noDirectory entries)
      | link target => exact absurd there (linkFree.at?_ne _ target)
    have named : filter.hasExtension (target.names.getLastD "") = true ↔
        HasExtension filter.extensions (w.current ++ dir) := by
      rw [List.getLastD_eq_getLast?, leads.getLast? linkFree there inDirectory]
      cases last : (w.current ++ dir).getLast? with
      | none =>
        rw [List.getLast?_eq_none_iff.mp last] at there
        have isDirectory := inDirectory.isDirectory
        rw [Option.some_inj.mp there] at isDirectory
        cases isDirectory
      | some name => simp [Filter.hasExtension, HasExtension, last]
    constructor
    · rintro ⟨f, mem, rfl⟩
      split at mem
      · next extension =>
        rw [List.mem_singleton.mp mem]
        exact ⟨fileAt?_isSome_iff.mpr ⟨bytes, there⟩, named.mp extension, .inl rfl⟩
      · cases mem
    · rintro ⟨isFile, extension, rfl | ⟨below, rfl, notHere, -⟩⟩
      · rw [if_pos (named.mpr extension)]
        exact ⟨_, List.mem_singleton_self _, rfl⟩
      · obtain ⟨_, deeper⟩ := fileAt?_isSome_iff.mp isFile
        cases isDirectory_of_at? there deeper notHere

end

theorem ignore_of_noFile {compile : IgnoreCompiler}
    (noFile : w.findFile? (w.fullName (.ofText ignoreFileName)) (.ofText ignoreFileName) =
      .ok none) : w.ignore compile [] = .ok fun _ => false := by
  have none : w.ignoreLines = .ok [] := by
    unfold ignoreLines
    simp only [noFile]
  unfold Workspace.ignore
  rw [none]
  rfl

theorem filesOf_of_missing {filter : Filter} {target : Path} (missing : w.Missing target) :
    w.filesOf filter target = .error (.missing target.text) := by
  obtain ⟨e, located, nowhere⟩ := missing
  rw [filesOf, find?, located]
  simp only [if_pos nowhere]

theorem filesOf_of_tooLong {filter : Filter} {target : Path} (tooLong : w.TooLong target) :
    w.filesOf filter target = .error (.os .nameTooLong (w.fullName target)) := by
  rw [filesOf, find?, show w.locate _ target = _ from tooLong]
  rfl

theorem filesOf_cases (linkFree : w.tree.LinkFree) (filter : Filter) {target : Path}
    (inside : ∀ start, w.Leads target start → w.current <+: start) :
    ((∃ location, w.Leads target location) ∧ ∃ files, w.filesOf filter target = .ok files) ∨
      (w.Missing target ∧ w.filesOf filter target = .error (.missing target.text)) ∨
      (w.TooLong target ∧
        w.filesOf filter target = .error (.os .nameTooLong (w.fullName target))) := by
  rcases leads_or_missing_or_tooLong linkFree target with ⟨location, leads⟩ | missing | tooLong
  · obtain ⟨dir, rfl⟩ := inside location leads
    rw [filesOf_of_leads leads]
    exact .inl ⟨⟨_, leads⟩, exists_filesAt linkFree dir⟩
  · exact .inr (.inl ⟨missing, filesOf_of_missing missing⟩)
  · exact .inr (.inr ⟨tooLong, filesOf_of_tooLong tooLong⟩)

section
variable {compile : IgnoreCompiler} {targets : List Path} {extensions exclude : List String}
  {ignore : String → Bool} {files : List FoundFile} (spec : w.ignore compile exclude = .ok ignore)
include spec

/-- Collecting fails on the first target that leads nowhere. -/
theorem collect_eq_error (linkFree : w.tree.LinkFree) (inside : w.Inside targets) {e : CollectError}
    (h : w.collect compile targets extensions exclude = .error e) :
    ∃ before target after, targets = before ++ target :: after ∧
      (∀ t ∈ before, ∃ location, w.Leads t location) ∧
      ((w.Missing target ∧ e = .missing target.text) ∨
        w.TooLong target ∧ e = .os .nameTooLong (w.fullName target)) := by
  simp only [collect, bind_eq_error, spec, pure_ne_error, and_false, exists_false, or_false,
    reduceCtorEq, false_or, Except.ok.injEq, exists_eq_left'] at h
  obtain ⟨before, target, after, rfl, succeeded, failed⟩ := exists_first_error_of_mapM h
  refine ⟨before, target, after, rfl, fun t ht => ?_, ?_⟩
  · obtain ⟨files, found⟩ := succeeded t ht
    rcases filesOf_cases linkFree ⟨ignore, extensions⟩ (inside t (by simp [ht])) with
      ⟨leads, -⟩ | ⟨-, failed⟩ | ⟨-, failed⟩
    · exact leads
    · rw [failed] at found
      cases found
    · rw [failed] at found
      cases found
  · rcases filesOf_cases linkFree ⟨ignore, extensions⟩ (inside target (by simp)) with
      ⟨-, files, found⟩ | ⟨missing, told⟩ | ⟨tooLong, told⟩
    · rw [found] at failed
      cases failed
    · rw [told] at failed
      cases failed
      exact .inl ⟨missing, rfl⟩
    · rw [told] at failed
      cases failed
      exact .inr ⟨tooLong, rfl⟩

variable (h : w.collect compile targets extensions exclude = .ok files)
include h

theorem exists_filesOf_of_collect {f : FoundFile} (mem : f ∈ files) :
    ∃ target ∈ targets, ∃ ofTarget, w.filesOf ⟨ignore, extensions⟩ target = .ok ofTarget ∧
      f ∈ ofTarget := by
  obtain ⟨_, same, found, each, rfl⟩ := collect_eq_ok.mp h
  rw [spec] at same
  cases same
  have mem := (mem_or_mem_of_mem_keepFirst mem).resolve_left List.not_mem_nil
  obtain ⟨ofTarget, hfiles, mem⟩ := List.mem_flatten.mp mem
  obtain ⟨target, htarget, eq⟩ := exists_rel_of_mem_right (forall₂_of_mapM_eq_ok each) hfiles
  exact ⟨target, htarget, ofTarget, eq, mem⟩

theorem exists_collected_of_filesOf {target : Path} (mem : target ∈ targets) :
    ∃ ofTarget, w.filesOf ⟨ignore, extensions⟩ target = .ok ofTarget ∧
      ∀ f ∈ ofTarget, f.location ∈ files.map (·.location) := by
  obtain ⟨_, same, found, each, rfl⟩ := collect_eq_ok.mp h
  rw [spec] at same
  cases same
  obtain ⟨ofTarget, hfiles, eq⟩ := exists_rel_of_mem_left (forall₂_of_mapM_eq_ok each) mem
  refine ⟨ofTarget, eq, fun f hf => ?_⟩
  have all : f ∈ found.flatten := List.mem_flatten.mpr ⟨ofTarget, hfiles, hf⟩
  obtain ⟨first, kept, rfl | same⟩ : ∃ first ∈ keepFirst FoundFile.sameLocation [] found.flatten,
      first = f ∨ first.sameLocation f = true := exists_mem_keepFirst all
  · exact List.mem_map_of_mem kept
  · exact List.mem_map.mpr ⟨first, kept, eq_of_beq same⟩

variable (linkFree : w.tree.LinkFree)
include linkFree

theorem exists_filesAt_of_collect (inside : w.Inside targets) {target : Path}
    (mem : target ∈ targets) : ∃ dir, w.Leads target (w.current ++ dir) ∧
      w.filesOf ⟨ignore, extensions⟩ target =
        w.filesAt ⟨ignore, extensions⟩ target (w.current ++ dir) := by
  obtain ⟨ofTarget, found, -⟩ := exists_collected_of_filesOf spec h mem
  rcases filesOf_cases linkFree ⟨ignore, extensions⟩ (inside target mem) with
    ⟨⟨location, leads⟩, -⟩ | ⟨-, failed⟩ | ⟨-, failed⟩
  · obtain ⟨dir, rfl⟩ := inside target mem location leads
    exact ⟨dir, leads, filesOf_of_leads leads⟩
  · rw [failed] at found
    cases found
  · rw [failed] at found
    cases found

/-- The files that are collected are those with an extension that some target covers. -/
theorem mem_collect_iff (proper : w.tree.Proper) (inDirectory : w.InDirectory)
    (inside : w.Inside targets) {location : List String} :
    location ∈ files.map (·.location) ↔ (w.tree.fileAt? location).isSome ∧
      HasExtension extensions location ∧ ∃ target ∈ targets, w.Covers ignore target location := by
  constructor
  · intro mem
    obtain ⟨f, hf, rfl⟩ := List.mem_map.mp mem
    obtain ⟨target, htarget, ofTarget, eq, hf⟩ := exists_filesOf_of_collect spec h hf
    obtain ⟨dir, leads, same⟩ := exists_filesAt_of_collect spec h linkFree inside htarget
    obtain ⟨isFile, extension, covers⟩ :=
      (mem_filesAt_iff linkFree proper inDirectory leads (same ▸ eq)).mp ⟨f, hf, rfl⟩
    exact ⟨isFile, extension, target, htarget, covers⟩
  · rintro ⟨isFile, extension, target, htarget, covers⟩
    obtain ⟨ofTarget, eq, collected⟩ := exists_collected_of_filesOf spec h htarget
    obtain ⟨dir, leads, same⟩ := exists_filesAt_of_collect spec h linkFree inside htarget
    obtain ⟨f, hf, rfl⟩ := (mem_filesAt_iff linkFree proper inDirectory leads (same ▸ eq)).mpr
      ⟨isFile, extension, covers⟩
    exact collected f hf

end

/-- Collecting succeeds if and only if each target leads to something, and the first one that does
not is told; but one that is longer than the platform can be asked for is not. What is collected is
each file with an extension that a target covers, and it is collected once; targets that cover the
same files change the order only. -/
theorem collect_covered (w : Workspace) (compile : IgnoreCompiler) (targets : List Path)
    (extensions exclude : List String) (ignore : String → Bool) (proper : w.tree.Proper)
    (linkFree : w.tree.LinkFree) (inDirectory : w.InDirectory)
    (spec : w.ignore compile exclude = .ok ignore) (inside : w.Inside targets) :
    ((∃ files, w.collect compile targets extensions exclude = .ok files) ↔
      ∀ target ∈ targets, ∃ location, w.Leads target location) ∧
    (∀ e, w.collect compile targets extensions exclude = .error e →
      ∃ before target after, targets = before ++ target :: after ∧
        (∀ t ∈ before, ∃ location, w.Leads t location) ∧
        ((w.Missing target ∧ e = .missing target.text) ∨
          w.TooLong target ∧ e = .os .nameTooLong (w.fullName target))) ∧
    ∀ files, w.collect compile targets extensions exclude = .ok files →
      (files.map (·.location)).Nodup ∧
      (∀ location, location ∈ files.map (·.location) ↔ (w.tree.fileAt? location).isSome ∧
        HasExtension extensions location ∧ ∃ target ∈ targets, w.Covers ignore target location) ∧
      (∀ f ∈ files, f.name = w.nameOf f.location ∨
        ∃ target ∈ targets, w.Leads target f.location ∧ f.name = w.fullName target) ∧
      ∀ targets' files', w.Inside targets' →
        w.collect compile targets' extensions exclude = .ok files' →
        (∀ location, (w.tree.fileAt? location).isSome →
          ((∃ target ∈ targets, w.Covers ignore target location) ↔
            ∃ target ∈ targets', w.Covers ignore target location)) →
        (files.map (·.location)).Perm (files'.map (·.location)) := by
  refine ⟨⟨?_, fun lead => ?_⟩, fun e => collect_eq_error spec linkFree inside, fun files h =>
    ⟨collect_distinct h,
      fun location => mem_collect_iff spec h linkFree proper inDirectory inside, ?_, ?_⟩⟩
  · rintro ⟨files, h⟩ target mem
    obtain ⟨dir, leads, -⟩ := exists_filesAt_of_collect spec h linkFree inside mem
    exact ⟨_, leads⟩
  · cases h : w.collect compile targets extensions exclude with
    | ok files => exact ⟨files, rfl⟩
    | error e =>
      -- A failure would name a target that leads nowhere.
      obtain ⟨before, target, after, rfl, -, failed⟩ := collect_eq_error spec linkFree inside h
      obtain ⟨location, leads⟩ := lead target (by simp)
      rcases failed with ⟨missing, -⟩ | ⟨tooLong, -⟩
      · exact absurd missing leads.not_missing.1
      · exact absurd tooLong leads.not_missing.2
  · intro f mem
    obtain ⟨target, htarget, ofTarget, eq, mem⟩ := exists_filesOf_of_collect spec h mem
    obtain ⟨dir, leads, same⟩ := exists_filesAt_of_collect spec h linkFree inside htarget
    rcases name_of_filesAt linkFree (same ▸ eq) mem with own | ⟨location, named⟩
    · exact .inl own
    · exact .inr ⟨target, htarget, location ▸ leads, named⟩
  · intro targets' files' inside' h' covered
    refine (List.perm_ext_iff_of_nodup (collect_distinct h) (collect_distinct h')).mpr
      fun location => ?_
    rw [mem_collect_iff spec h linkFree proper inDirectory inside,
      mem_collect_iff spec h' linkFree proper inDirectory inside']
    exact and_congr_right fun isFile => and_congr_right fun _ => covered location isFile

def sources : Workspace where
  rootName := "/w"
  tree := .directory [("a.ts", .file []), ("gen", .directory [("b.ts", .file [])]),
    ("node_modules", .directory [("c.ts", .file [])]),
    ("src", .directory [("d.ts", .file []), ("e.css", .file [])])]

theorem collect_covered_sources :
    let targets := [".", "gen/b.ts"].map Path.ofText
    let targets' := ["gen/../gen/b.ts", ".", "gen/b.ts"].map Path.ofText
    sources.tree.Proper ∧ sources.tree.LinkFree ∧ sources.InDirectory ∧ sources.Inside targets ∧
      (∃ ignore, sources.ignore Ignore.compile ["gen/"] = .ok ignore) ∧
      ∃ files files', sources.collect Ignore.compile targets [".ts"] ["gen/"] = .ok files ∧
        files.map (·.location) = [["a.ts"], ["src", "d.ts"], ["gen", "b.ts"]] ∧
        sources.collect Ignore.compile targets' [".ts"] ["gen/"] = .ok files' ∧
        (files.map (·.location)).Perm (files'.map (·.location)) := by
  intro targets targets'
  have leaf (name : String) : (directory [(name, file [])]).Proper :=
    .directory (List.pairwise_singleton _ _) (List.forall_mem_singleton.mpr (.file _))
  have proper : sources.tree.Proper := by
    refine .directory (by decide) ?_
    simp only [List.forall_mem_cons]
    refine ⟨.file _, leaf _, leaf _, .directory (by decide) ?_, nofun⟩
    simp only [List.forall_mem_cons]
    exact ⟨.file _, .file _, nofun⟩
  have linkFree : sources.tree.LinkFree := by
    refine .directory ?_
    simp only [List.forall_mem_cons]
    refine ⟨.file _, .directory ?_, .directory ?_, .directory ?_, nofun⟩
    all_goals simp only [List.forall_mem_cons]
    · exact ⟨.file _, nofun⟩
    · exact ⟨.file _, nofun⟩
    · exact ⟨.file _, .file _, nofun⟩
  have inside (targets : List Path) : sources.Inside targets := fun _ _ _ _ => List.nil_prefix
  obtain ⟨ignore, spec⟩ : ∃ ignore, sources.ignore Ignore.compile ["gen/"] = .ok ignore :=
    exists_eq_ok_of_isOk (by decide +kernel)
  have found (targets : List Path) (locations : List (List String))
      (eval : (sources.collect Ignore.compile targets [".ts"] ["gen/"]).toOption.map
        (·.map (·.location)) = some locations) :
      ∃ files, sources.collect Ignore.compile targets [".ts"] ["gen/"] = .ok files ∧
        files.map (·.location) = locations := by
    obtain ⟨files, collected, same⟩ := Option.map_eq_some_iff.mp eval
    cases result : sources.collect Ignore.compile targets [".ts"] ["gen/"] with
    | ok _ =>
      rw [result] at collected
      cases collected
      exact ⟨files, rfl, same⟩
    | error e =>
      rw [result] at collected
      cases collected
  obtain ⟨files, collected, locations⟩ :=
    found targets [["a.ts"], ["src", "d.ts"], ["gen", "b.ts"]] (by decide +kernel)
  obtain ⟨files', collected', -⟩ :=
    found targets' [["gen", "b.ts"], ["a.ts"], ["src", "d.ts"]] (by decide +kernel)
  refine ⟨proper, linkFree, ⟨_, rfl⟩, inside _, ⟨ignore, spec⟩, files, files', collected,
    locations, collected', ?_⟩
  obtain ⟨-, -, exact'⟩ := collect_covered sources Ignore.compile targets [".ts"] ["gen/"] ignore
    proper linkFree ⟨_, rfl⟩ spec (inside _)
  refine (exact' files collected).2.2.2 targets' files' (inside _) collected' fun location _ => ?_
  have again : sources.Covers ignore (.ofText "gen/../gen/b.ts") location ↔
      sources.Covers ignore (.ofText "gen/b.ts") location := by
    have same : sources.locate (sources.fullName (.ofText "gen/../gen/b.ts"))
        (.ofText "gen/../gen/b.ts") =
        sources.locate (sources.fullName (.ofText "gen/b.ts")) (.ofText "gen/b.ts") := by
      decide +kernel
    simp only [Covers, Leads, same]
  simp only [targets, targets', List.map_cons, List.map_nil, List.exists_mem_cons_iff, again,
    List.not_mem_nil, false_and, exists_false, or_false]
  rw [or_left_comm, or_self]

def longName : String := String.ofList (List.replicate 256 'a')

theorem byteLength_longName : byteLength longName = 256 := by
  have bytes : (Text.encode (List.replicate 256 'a')).length = 256 := by decide +kernel
  exact (byteLength_ofList _).trans bytes

/-- There is no file of a name of 256 letters, but that is not what the user is told. -/
theorem collect_longName :
    let w : Workspace := { rootName := "/w", tree := .none }
    w.tree.at? [longName] = none ∧ w.collect Ignore.compile [{ names := [longName] }] [".ts"] [] =
      .error (.os .nameTooLong (w.fullName { names := [longName] })) := by
  intro w
  have long : nameLimit < byteLength longName := by
    rw [byteLength_longName]
    decide
  have tooLong : w.TooLong { names := [longName] } := tooLong_of_byteLength ⟨[], rfl⟩ long
  have spec : w.ignore Ignore.compile [] = .ok fun _ => false :=
    ignore_of_noFile (by decide +kernel)
  refine ⟨rfl, ?_⟩
  simp only [collect, spec, ok_bind, List.mapM_cons, filesOf_of_tooLong tooLong]
  rfl

end Workspace

end FieldOrder
