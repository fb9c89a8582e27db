import Mathlib.Data.List.Nodup
import RitspLtv.Trust.AnchorLoading

/-!
# Loading a directory of trust anchors

The strict loader stops at the first problem, the lenient one reports problems
and goes on.  They load the same store whenever the lenient one has nothing to
report.  A directory lists its files in no particular order; since the loaders
sort by file name, neither what is loaded nor which problem is the first depends
on that order.
-/

namespace RitspLtv.Trust.DirectoryLoading

open RitspLtv.Foundation.Checks
open RitspLtv.RustStd
open RitspLtv.DerUtils
open RitspLtv.Trust.Store
open RitspLtv.Trust.Store.TrustStore
open RitspLtv.Trust.AnchorLoading

/-! ## The order of the files -/

theorem insertEntry_perm (entry : DirEntry) (entries : List DirEntry) :
    (insertEntry entry entries).Perm (entry :: entries) := by
  induction entries with
  | nil => exact .refl _
  | cons head tail induction =>
      rw [insertEntry]
      split
      · exact .refl _
      · exact (induction.cons head).trans (.swap entry head tail)

theorem sortEntries_perm (entries : List DirEntry) :
    (sortEntries entries).Perm entries := by
  have folded :
      ∀ sorted : List DirEntry,
        (entries.foldl (fun sorted entry => insertEntry entry sorted)
          sorted).Perm (sorted ++ entries) := by
    induction entries with
    | nil => simp
    | cons entry entries induction =>
        intro sorted
        rw [List.foldl_cons]
        refine (induction _).trans ?_
        refine ((insertEntry_perm entry sorted).append_right entries).trans ?_
        exact List.perm_middle.symm
  exact folded []

/-- The file names do not decrease. -/
def Ordered (entries : List DirEntry) : Prop :=
  entries.Pairwise fun earlier later => earlier.fileName ≤ later.fileName

theorem insertEntry_ordered
    {entry : DirEntry} {entries : List DirEntry}
    (ordered : Ordered entries) : Ordered (insertEntry entry entries) := by
  induction entries with
  | nil => exact List.pairwise_singleton _ _
  | cons head tail induction =>
      rw [Ordered, List.pairwise_cons] at ordered
      rcases ordered with ⟨below, ordered⟩
      rw [insertEntry]
      split
      · next before =>
          refine
            List.pairwise_cons.mpr
              ⟨?_, List.pairwise_cons.mpr ⟨below, ordered⟩⟩
          intro other member
          rcases List.mem_cons.mp member with rfl | member
          · exact List.le_of_lt before
          · exact List.le_trans (List.le_of_lt before) (below other member)
      · next notBefore =>
          refine List.pairwise_cons.mpr ⟨?_, induction ordered⟩
          intro other member
          rcases mem_insertEntry.mp member with rfl | member
          · exact List.not_lt.mp notBefore
          · exact below other member

theorem sortEntries_ordered (entries : List DirEntry) :
    Ordered (sortEntries entries) := by
  have folded :
      ∀ sorted : List DirEntry, Ordered sorted →
        Ordered
          (entries.foldl (fun sorted entry => insertEntry entry sorted)
            sorted) := by
    induction entries with
    | nil => exact fun _ ordered => ordered
    | cons entry entries induction =>
        intro sorted ordered
        rw [List.foldl_cons]
        exact induction _ (insertEntry_ordered ordered)
  exact folded [] List.Pairwise.nil

/-- Files of different names are sorted in one way. -/
theorem sortEntries_eq_of_perm
    {entries others : List DirEntry}
    (permuted : entries.Perm others)
    (distinct : (entries.map DirEntry.fileName).Nodup) :
    sortEntries entries = sortEntries others := by
  have sameFiles :
      (sortEntries entries).Perm (sortEntries others) :=
    (sortEntries_perm entries).trans
      (permuted.trans (sortEntries_perm others).symm)
  refine
    List.Perm.eq_of_pairwise ?_ (sortEntries_ordered entries)
      (sortEntries_ordered others) sameFiles
  intro left right leftMember rightMember leftLe rightLe
  exact
    List.inj_on_of_nodup_map distinct (mem_sortEntries.mp leftMember)
      (permuted.mem_iff.mpr (mem_sortEntries.mp rightMember))
      (List.le_antisymm leftLe rightLe)

/-! ## The two loaders -/

section Loaders

variable (crates : Crates)

/-- The error of the strict loader names the file, whether unreadable or malformed. -/
def NamesFile (entry : DirEntry) (error : TrustError) : Prop :=
  ∃ detail : String,
    error =
        .io s!"failed to read trust anchor file {entry.path}: {detail}" ∨
      error =
        .certificateParse
          s!"failed to parse trust anchor file {entry.path}: {detail}"

/-- The strict step adds what the lenient one adds, if there is nothing to report. -/
theorem loadStrict_eq_ok_iff
    {store next : TrustStore} {entry : DirEntry} :
    loadStrict crates store entry = .ok next ↔
      reportOf crates entry = [] ∧
        next = extend store (anchorsOf crates entry) := by
  simp only [loadStrict, reportOf, anchorsOf, loadLenient]
  split
  · cases entry.contents with
    | error e => simp
    | ok data =>
        simp only [mapError_ok, ok_bind, addAnchorFileData_eq]
        cases (fileContribution crates data).2 with
        | none =>
            simp only [resultOf, pure_eq_ok, true_and, extend,
              TrustStore.new, List.nil_append]
            exact eq_comm
        | some e => simp [resultOf]
  · simp only [pure_eq_ok, true_and, extend, TrustStore.new,
      List.append_nil]
    exact eq_comm

/-- Where the strict step fails, its error names the file. -/
theorem namesFile_of_loadStrict
    {store : TrustStore} {entry : DirEntry} {error : TrustError}
    (failed : loadStrict crates store entry = .error error) :
    NamesFile entry error := by
  rw [loadStrict] at failed
  split at failed
  · cases contents : entry.contents with
    | error e =>
        rw [contents] at failed
        cases failed
        exact ⟨e, .inl rfl⟩
    | ok data =>
        simp only [contents, mapError_ok, ok_bind] at failed
        split at failed
        · cases failed
        · cases failed
          exact ⟨_, .inr rfl⟩
  · cases failed

/-- The strict loop succeeds when there is nothing to report about any file. -/
theorem foldlM_loadStrict_eq_ok_iff
    {entries : List DirEntry} {store final : TrustStore} :
    entries.foldlM (loadStrict crates) store = .ok final ↔
      entries.flatMap (reportOf crates) = [] ∧
        final = extend store (entries.flatMap (anchorsOf crates)) := by
  induction entries generalizing store with
  | nil =>
      rw [List.foldlM_nil, pure_eq_ok, List.flatMap_nil, List.flatMap_nil,
        extend_nil, eq_comm]
      simp
  | cons entry entries induction =>
      rw [List.foldlM_cons, bind_eq_ok]
      simp only [loadStrict_eq_ok_iff, induction, List.flatMap_cons,
        List.append_eq_nil_iff]
      constructor
      · intro loaded
        rcases loaded with ⟨next, ⟨clean, rfl⟩, others, rfl⟩
        exact ⟨⟨clean, others⟩, extend_extend _ _ _⟩
      · intro loaded
        rcases loaded with ⟨⟨clean, others⟩, rfl⟩
        exact ⟨_, ⟨clean, rfl⟩, others, (extend_extend _ _ _).symm⟩

/-- What the lenient loader returns for a directory that can be enumerated. -/
theorem fromPemDirectoryLenient_eq
    (dir : String) (results : List (Except String DirEntry)) :
    fromPemDirectoryLenient crates dir true (.ok results) =
      .ok
        (extend .new
            ((sortEntries (entriesOf results)).flatMap (anchorsOf crates)),
          entryErrors dir results ++
            (sortEntries (entriesOf results)).flatMap (reportOf crates)) :=
  congrArg Except.ok
    (foldl_loadLenient crates (sortEntries (entriesOf results)) .new
      (entryErrors dir results))

/-- No entry failed exactly when the results are those of the entries. -/
theorem entryErrors_eq_nil_iff
    {dir : String} {results : List (Except String DirEntry)} :
    entryErrors dir results = [] ↔ results = (entriesOf results).map .ok := by
  induction results with
  | nil => simp [entryErrors, entriesOf]
  | cons result results induction =>
      simp only [entryErrors, entriesOf] at induction ⊢
      cases result with
      | ok entry => simpa using induction
      | error e =>
          refine iff_of_false (by simp) ?_
          intro same
          have member : Except.error e ∈ (Except.error e :: results) :=
            List.mem_cons_self
          rw [same] at member
          rcases List.mem_map.mp member with ⟨_, _, impossible⟩
          cases impossible

/-- The two loaders load the same, when the lenient one has nothing to report. -/
theorem fromPemDirectory_eq_ok_iff
    (dir : String) (isDir : Bool)
    (readDir : Except String (List (Except String DirEntry)))
    (store : TrustStore) :
    fromPemDirectory crates dir isDir readDir = .ok store ↔
      fromPemDirectoryLenient crates dir isDir readDir = .ok (store, []) := by
  cases isDir with
  | false => simp [fromPemDirectory, fromPemDirectoryLenient]
  | true =>
      cases readDir with
      | error e => simp [fromPemDirectory, fromPemDirectoryLenient]
      | ok results =>
          rw [fromPemDirectoryLenient_eq]
          simp only [fromPemDirectory, Bool.true_eq_false, if_false,
            mapError_ok, ok_bind, bind_eq_ok, mapError_eq_ok,
            mapM_id_eq_ok_iff, foldlM_loadStrict_eq_ok_iff, Except.ok.injEq,
            Prod.mk.injEq, List.append_eq_nil_iff, entryErrors_eq_nil_iff]
          constructor
          · intro loaded
            rcases loaded with ⟨entries, rfl, clean, rfl⟩
            have same : entriesOf (entries.map Except.ok) = entries := by
              simp [entriesOf, List.filterMap_map]
            rw [same]
            exact ⟨rfl, rfl, clean⟩
          · intro loaded
            rcases loaded with ⟨rfl, allRead, clean⟩
            exact ⟨entriesOf results, allRead, clean, rfl⟩

/-- What the strict loader does with a directory whose entries can all be read. -/
theorem fromPemDirectory_eq (dir : String) (entries : List DirEntry) :
    fromPemDirectory crates dir true (.ok (entries.map .ok)) =
      (sortEntries entries).foldlM (loadStrict crates) .new := by
  have collected :
      (entries.map fun entry => (.ok entry : Except String DirEntry)).mapM
          id =
        .ok entries :=
    mapM_id_eq_ok_iff.mpr rfl
  simp only [fromPemDirectory, Bool.true_eq_false, if_false, mapError_ok,
    ok_bind, collected]

/-- The strict loader fails at the first file, by name, that does not load. -/
theorem firstFailure_of_fromPemDirectory
    {dir : String} {entries : List DirEntry} {error : TrustError}
    (failed :
      fromPemDirectory crates dir true (.ok (entries.map .ok)) =
        .error error) :
    ∃ before entry after,
      sortEntries entries = before ++ entry :: after ∧
        (∀ earlier ∈ before, reportOf crates earlier = []) ∧
        reportOf crates entry ≠ [] ∧ NamesFile entry error := by
  rw [fromPemDirectory_eq, foldlM_eq_error_iff] at failed
  rcases failed with ⟨before, entry, after, reached, split, passed, failed⟩
  rw [foldlM_loadStrict_eq_ok_iff, List.flatMap_eq_nil_iff] at passed
  refine
    ⟨before, entry, after, split, passed.1, ?_,
      namesFile_of_loadStrict crates failed⟩
  intro clean
  have loaded :=
    (loadStrict_eq_ok_iff crates).mpr
      ⟨clean, (rfl : extend reached (anchorsOf crates entry) = _)⟩
  rw [failed] at loaded
  cases loaded

/--
Loading a directory of anchors.  The strict loader loads a store exactly when
the lenient one loads the same store and reports nothing.  When it fails on a
directory that can be read, it names the first file, in the order of the file
names, that does not load.  And neither loader depends on the order in which the
directory lists its files.
-/
theorem directoryLoading (dir : String) :
    (∀ isDir readDir store,
        fromPemDirectory crates dir isDir readDir = .ok store ↔
          fromPemDirectoryLenient crates dir isDir readDir =
            .ok (store, [])) ∧
      (∀ (entries : List DirEntry) error,
        fromPemDirectory crates dir true (.ok (entries.map .ok)) =
            .error error →
          ∃ before entry after,
            sortEntries entries = before ++ entry :: after ∧
              (∀ earlier ∈ before, reportOf crates earlier = []) ∧
              reportOf crates entry ≠ [] ∧ NamesFile entry error) ∧
      ∀ entries others : List DirEntry, entries.Perm others →
        (entries.map DirEntry.fileName).Nodup →
          fromPemDirectory crates dir true (.ok (entries.map .ok)) =
              fromPemDirectory crates dir true (.ok (others.map .ok)) ∧
            fromPemDirectoryLenient crates dir true
                (.ok (entries.map .ok)) =
              fromPemDirectoryLenient crates dir true
                (.ok (others.map .ok)) := by
  refine ⟨?_, ?_, ?_⟩
  · exact fromPemDirectory_eq_ok_iff crates dir
  · intro entries error failed
    exact firstFailure_of_fromPemDirectory crates failed
  · intro entries others permuted distinct
    have sameOrder := sortEntries_eq_of_perm permuted distinct
    have allRead :
        ∀ files : List DirEntry,
          entriesOf (files.map .ok) = files ∧
            entryErrors dir (files.map .ok) = [] := by
      intro files
      have same : entriesOf (files.map .ok) = files := by
        simp [entriesOf, List.filterMap_map]
      exact ⟨same, entryErrors_eq_nil_iff.mpr (by rw [same])⟩
    rw [fromPemDirectory_eq, fromPemDirectory_eq,
      fromPemDirectoryLenient_eq, fromPemDirectoryLenient_eq,
      (allRead entries).1, (allRead entries).2, (allRead others).1,
      (allRead others).2, sameOrder]
    exact ⟨rfl, rfl⟩

end Loaders

end RitspLtv.Trust.DirectoryLoading
