import RitspLtv.Reference
import Mathlib.Data.List.Flatten

/-!
# Loading trust anchors

What loading PEM or DER data adds to a store does not depend on the store: it
is a list of anchors and possibly an error.  PEM data contributes the anchors
of its complete blocks up to the first that fails, and these stay in the store.
The module says exactly when a failed load has left the store unchanged, and
exactly when a successful one has accounted for every opening marker.
-/

namespace RitspLtv.Trust.AnchorLoading

open RitspLtv.Foundation.Checks
open RitspLtv.Foundation.MarkerScan
open RitspLtv.RustStd
open RitspLtv.Trust.Store
open RitspLtv.Trust.Store.TrustStore

variable (crates : Crates)

/-! ## Contributions -/

/-- The store with further anchors behind its own. -/
def extend (store : TrustStore) (anchors : List TrustAnchor) : TrustStore :=
  { store with anchors := store.anchors ++ anchors }

/-- The anchor of one complete block. -/
def loadPemBlock (pemBlock : Bytes) : Except TrustError TrustAnchor := do
  let der ← decodePemBlock crates pemBlock
  let cert ←
    (crates.certificateFromDer der).mapError fun e =>
      .certificateParse s!"DER decode failed: {e}"
  pure ⟨cert, der⟩

/-- The complete blocks of a PEM text, with their positions. -/
def pemScan (text : Bytes) : Scan UInt8 :=
  scan beginMarker endMarker text

/-- The anchors that PEM data adds, and the error it ends with. -/
def pemContribution (data : Bytes) : List TrustAnchor × Option TrustError :=
  match fromUtf8 data with
  | .error e =>
      ([], some (.certificateParse s!"invalid UTF-8 in PEM: {e.display}"))
  | .ok text =>
      let blocks := (pemScan text).blocks.map Block.text
      if blocks = [] then
        ([],
          some (.certificateParse "no CERTIFICATE blocks found in PEM data"))
      else keepUntilError (loadPemBlock crates) blocks

/-- The anchors that a file adds, and the error it ends with. -/
def fileContribution (data : Bytes) : List TrustAnchor × Option TrustError :=
  if pemArmor.isPrefixOf (trimAsciiStart data) then pemContribution crates data
  else
    match crates.certificateFromDer data with
    | .error e => ([], some (.certificateParse s!"DER decode failed: {e}"))
    | .ok cert => ([⟨cert, data⟩], none)

/-- A failure as the result of a load. -/
def resultOf : Option TrustError → Except TrustError Unit
  | none => .ok ()
  | some e => .error e

@[simp]
theorem extend_nil (store : TrustStore) : extend store [] = store := by
  simp [extend]

@[simp]
theorem extend_extend
    (store : TrustStore) (first second : List TrustAnchor) :
    extend (extend store first) second = extend store (first ++ second) := by
  simp [extend]

/-- The loop over the blocks keeps what it has added in front of a failure. -/
theorem addPemBlocks_eq
    (fuel offset : Nat) (store : TrustStore) (foundAny : Bool)
    (text : Bytes) :
    let blocks :=
      (scanFrom beginMarker endMarker fuel offset text).blocks.map Block.text
    let loaded := keepUntilError (loadPemBlock crates) blocks
    addPemBlocks crates fuel store foundAny text =
      (extend store loaded.1,
        match loaded.2 with
        | none => .ok (foundAny || !blocks.isEmpty)
        | some e => .error e) := by
  induction fuel generalizing offset store foundAny text with
  | zero => simp [addPemBlocks, scanFrom, keepUntilError]
  | succ fuel induction =>
      simp only [addPemBlocks, scanFrom]
      cases nextBlock beginMarker endMarker text with
      | none => simp [keepUntilError]
      | some found =>
          rcases found with ⟨before, pemBlock, after⟩
          simp only [List.map_cons, keepUntilError, loadPemBlock]
          cases decodePemBlock crates pemBlock with
          | error e => simp
          | ok der =>
              simp only [ok_bind, addDerCertificate]
              cases crates.certificateFromDer der with
              | error e => simp
              | ok cert =>
                  have rest :=
                    induction (offset + before.length + pemBlock.length)
                      (store.push ⟨cert, der⟩) true after
                  simp only [mapError_ok, ok_bind]
                  rw [rest]
                  have pushed :
                      store.push ⟨cert, der⟩ =
                        extend store [⟨cert, der⟩] :=
                    rfl
                  simp [pushed, pure, Except.pure]

theorem addPemData_eq (store : TrustStore) (data : Bytes) :
    addPemData crates store data =
      (extend store (pemContribution crates data).1,
        resultOf (pemContribution crates data).2) := by
  simp only [addPemData, pemContribution]
  cases fromUtf8 data with
  | error e => simp [resultOf]
  | ok text =>
      have scanned :=
        addPemBlocks_eq crates text.length 0 store false text
      simp only at scanned ⊢
      rw [scanned, pemScan, scan]
      cases blocks :
          (scanFrom beginMarker endMarker text.length 0 text).blocks.map
            Block.text with
      | nil => simp [keepUntilError, resultOf]
      | cons first rest =>
          cases failure :
              (keepUntilError (loadPemBlock crates) (first :: rest)).2 with
          | none => simp [resultOf, failure]
          | some e => simp [resultOf, failure]

theorem addAnchorFileData_eq (store : TrustStore) (data : Bytes) :
    addAnchorFileData crates store data =
      (extend store (fileContribution crates data).1,
        resultOf (fileContribution crates data).2) := by
  simp only [addAnchorFileData, fileContribution]
  split
  · exact addPemData_eq crates store data
  · rw [addDerCertificate]
    cases crates.certificateFromDer data with
    | error e => simp [resultOf]
    | ok cert => rfl

/-! ## All or nothing -/

/-- The store is as it was whenever a load fails. -/
def UnchangedOnError
    (load : TrustStore → TrustStore × Except TrustError Unit) : Prop :=
  ∀ store after e, load store = (after, .error e) →
    after.anchors = store.anchors

/-- A load that adds a contribution is all or nothing when a failing one is empty. -/
theorem unchangedOnError_iff
    {load : TrustStore → TrustStore × Except TrustError Unit}
    {contribution : List TrustAnchor × Option TrustError}
    (loads :
      ∀ store,
        load store = (extend store contribution.1, resultOf contribution.2)) :
    UnchangedOnError load ↔ contribution.2 = none ∨ contribution.1 = [] := by
  rcases contribution with ⟨anchors, failure⟩
  cases failure with
  | none =>
      refine iff_of_true ?_ (.inl rfl)
      intro store after e failed
      rw [loads] at failed
      cases failed
  | some error =>
      simp only [reduceCtorEq, false_or]
      constructor
      · intro unchanged
        have same := unchanged .new _ error (loads .new)
        simpa [extend, TrustStore.new] using same
      · intro empty store after e failed
        rw [loads, empty] at failed
        cases failed
        simp

/-- The first complete block is an anchor, and some later one is not. -/
def PartlyLoads (data : Bytes) : Prop :=
  fromUtf8 data = .ok data ∧
    ∃ first rest,
      (pemScan data).blocks = first :: rest ∧
        Accepts (loadPemBlock crates first.text) ∧
        ∃ block ∈ rest, ¬ Accepts (loadPemBlock crates block.text)

/-- The data is recognised as PEM. -/
def IsPem (data : Bytes) : Prop :=
  pemArmor.isPrefixOf (trimAsciiStart data) = true

theorem pemContribution_iff (data : Bytes) :
    ((pemContribution crates data).2 = none ∨
        (pemContribution crates data).1 = []) ↔
      ¬ PartlyLoads crates data := by
  rw [pemContribution, PartlyLoads]
  cases valid : fromUtf8 data with
  | error e => simp
  | ok text =>
      have same : text = data := eq_of_fromUtf8 valid
      subst same
      simp only [true_and]
      cases blocks : (pemScan text).blocks with
      | nil => simp
      | cons first rest =>
          simp only [List.map_cons, reduceCtorEq, if_false,
            keepUntilError_eq_none_iff, keepUntilError_eq_nil_iff,
            List.head?_cons, List.forall_mem_cons, List.forall_mem_map,
            Option.some.injEq, forall_eq', List.cons.injEq]
          constructor
          · intro unchanged partly
            rcases partly with
              ⟨_, _, ⟨rfl, rfl⟩, accepted, block, member, refused⟩
            rcases unchanged with all | none
            · exact refused (all.2 block member)
            · exact none accepted
          · intro notPartly
            by_cases accepted : Accepts (loadPemBlock crates first.text)
            · left
              refine ⟨accepted, ?_⟩
              intro block member
              by_contra refused
              exact
                notPartly
                  ⟨first, rest, ⟨rfl, rfl⟩, accepted, block, member, refused⟩
            · exact .inr accepted

theorem fileContribution_iff (data : Bytes) :
    ((fileContribution crates data).2 = none ∨
        (fileContribution crates data).1 = []) ↔
      ¬ (IsPem data ∧ PartlyLoads crates data) := by
  rw [fileContribution, IsPem]
  split
  · next pem =>
      rw [pemContribution_iff]
      simp [pem]
  · next der =>
      refine iff_of_true ?_ (fun both => der both.1)
      cases crates.certificateFromDer data with
      | error e => exact .inr rfl
      | ok cert => exact .inl rfl

/-! ## The lenient directory loader -/

/-- What loading a file on its own adds. -/
def anchorsOf (entry : DirEntry) : List TrustAnchor :=
  (loadLenient crates (.new, []) entry).1.anchors

/-- What loading a file on its own reports as skipped. -/
def reportOf (entry : DirEntry) : List (String × String) :=
  (loadLenient crates (.new, []) entry).2

theorem loadLenient_eq
    (store : TrustStore) (skipped : List (String × String))
    (entry : DirEntry) :
    loadLenient crates (store, skipped) entry =
      (extend store (anchorsOf crates entry),
        skipped ++ reportOf crates entry) := by
  simp only [anchorsOf, reportOf, loadLenient]
  split
  · cases entry.contents with
    | error e => simp [extend, TrustStore.new]
    | ok data =>
        simp only [addAnchorFileData_eq]
        cases (fileContribution crates data).2 with
        | none => simp [resultOf, extend, TrustStore.new]
        | some e => simp [resultOf, extend, TrustStore.new]
  · simp [extend, TrustStore.new]

theorem foldl_loadLenient
    (entries : List DirEntry) (store : TrustStore)
    (skipped : List (String × String)) :
    entries.foldl (loadLenient crates) (store, skipped) =
      (extend store (entries.flatMap (anchorsOf crates)),
        skipped ++ entries.flatMap (reportOf crates)) := by
  induction entries generalizing store skipped with
  | nil => simp
  | cons entry entries induction =>
      rw [List.foldl_cons, loadLenient_eq, induction, extend_extend]
      simp

theorem mem_insertEntry
    {entry candidate : DirEntry} {entries : List DirEntry} :
    candidate ∈ insertEntry entry entries ↔
      candidate = entry ∨ candidate ∈ entries := by
  induction entries with
  | nil => simp [insertEntry]
  | cons head tail induction =>
      rw [insertEntry]
      split
      · simp
      · simp only [List.mem_cons, induction]
        tauto

theorem mem_sortEntries
    {candidate : DirEntry} {entries : List DirEntry} :
    candidate ∈ sortEntries entries ↔ candidate ∈ entries := by
  have folded :
      ∀ sorted : List DirEntry,
        candidate ∈
            entries.foldl (fun sorted entry => insertEntry entry sorted)
              sorted ↔
          candidate ∈ sorted ∨ candidate ∈ entries := by
    induction entries with
    | nil => simp
    | cons entry entries induction =>
        intro sorted
        rw [List.foldl_cons, induction, mem_insertEntry, List.mem_cons]
        tauto
  rw [sortEntries, folded]
  simp

/--
The files that are not reported contribute everything, exactly when every file
that is reported adds nothing.
-/
theorem flatMap_eq_filter_iff (entries : List DirEntry) :
    entries.flatMap (anchorsOf crates) =
        (entries.filter fun entry => reportOf crates entry = []).flatMap
          (anchorsOf crates) ↔
      ∀ entry ∈ entries,
        reportOf crates entry = [] ∨ anchorsOf crates entry = [] := by
  have shorter :
      ∀ entries : List DirEntry,
        ((entries.filter fun entry => reportOf crates entry = []).flatMap
            (anchorsOf crates)).length ≤
          (entries.flatMap (anchorsOf crates)).length := by
    intro entries
    exact (List.filter_sublist.flatMap _).length_le
  induction entries with
  | nil => simp
  | cons entry entries next =>
      rw [List.flatMap_cons, List.forall_mem_cons]
      by_cases loaded : reportOf crates entry = []
      · rw [List.filter_cons_of_pos (by simpa using loaded),
          List.flatMap_cons, List.append_cancel_left_eq]
        exact next.trans (by simp [loaded])
      · rw [List.filter_cons_of_neg (by simpa using loaded)]
        constructor
        · intro same
          have bounded := shorter entries
          rw [← same, List.length_append] at bounded
          have empty : anchorsOf crates entry = [] :=
            List.length_eq_zero_iff.mp (by omega)
          rw [empty, List.nil_append] at same
          exact ⟨.inr empty, next.1 same⟩
        · intro both
          rw [both.1.resolve_left loaded, List.nil_append]
          exact next.2 both.2

/-- The entries of a directory that can be enumerated. -/
def entriesOf (results : List (Except String DirEntry)) : List DirEntry :=
  results.filterMap fun result =>
    match result with
    | .ok entry => some entry
    | .error _ => none

/-- The reports of the entries that cannot be enumerated. -/
def entryErrors (dir : String) (results : List (Except String DirEntry)) :
    List (String × String) :=
  results.filterMap fun result =>
    match result with
    | .ok _ => none
    | .error e => some (dir, s!"directory entry error: {e}")

theorem mem_entriesOf
    {results : List (Except String DirEntry)} {entry : DirEntry} :
    entry ∈ entriesOf results ↔ .ok entry ∈ results := by
  rw [entriesOf, List.mem_filterMap]
  constructor
  · intro found
    rcases found with ⟨result, member, selected⟩
    cases result with
    | ok candidate =>
        cases selected
        exact member
    | error e => cases selected
  · intro member
    exact ⟨.ok entry, member, rfl⟩

/-- A file is recognised as PEM and partly loaded. -/
def PartlyLoadsFile (entry : DirEntry) : Prop :=
  isCandidate entry = true ∧
    ∃ data,
      entry.contents = .ok data ∧ IsPem data ∧ PartlyLoads crates data

theorem reportOf_or_anchorsOf_iff (entry : DirEntry) :
    (reportOf crates entry = [] ∨ anchorsOf crates entry = []) ↔
      ¬ PartlyLoadsFile crates entry := by
  simp only [reportOf, anchorsOf, loadLenient, PartlyLoadsFile]
  split
  · next candidate =>
      cases entry.contents with
      | error e => simp [TrustStore.new]
      | ok data =>
          have unchanged := fileContribution_iff crates data
          simp only [candidate, true_and, Except.ok.injEq, exists_eq_left',
            addAnchorFileData_eq]
          rw [← unchanged]
          cases (fileContribution crates data).2 with
          | none => simp [resultOf]
          | some e => simp [resultOf, extend, TrustStore.new]
  · next other => simp [other]

/--
A failed load leaves the store unchanged exactly on data that is not partly
loaded, and the lenient loader keeps the anchors of the files it reports as
skipped out of its store exactly when none of its files is partly loaded.
-/
theorem unchangedOnError_iff_not_partlyLoads :
    (∀ data,
        UnchangedOnError (fun store => store.addPemData crates data) ↔
          ¬ PartlyLoads crates data) ∧
      (∀ data,
        UnchangedOnError (fun store => store.addAnchorFileData crates data) ↔
          ¬ (IsPem data ∧ PartlyLoads crates data)) ∧
      ∀ dir results,
        ∃ store skipped,
          fromPemDirectoryLenient crates dir true (.ok results) =
              .ok (store, skipped) ∧
            skipped =
              entryErrors dir results ++
                (sortEntries (entriesOf results)).flatMap (reportOf crates) ∧
            (store.anchors =
                ((sortEntries (entriesOf results)).filter fun entry =>
                  reportOf crates entry = []).flatMap (anchorsOf crates) ↔
              ∀ entry, .ok entry ∈ results →
                ¬ PartlyLoadsFile crates entry) := by
  refine ⟨?_, ?_, ?_⟩
  · intro data
    rw [unchangedOnError_iff fun store => addPemData_eq crates store data]
    exact pemContribution_iff crates data
  · intro data
    rw [unchangedOnError_iff fun store =>
      addAnchorFileData_eq crates store data]
    exact fileContribution_iff crates data
  · intro dir results
    have loaded :=
      foldl_loadLenient crates (sortEntries (entriesOf results)) .new
        (entryErrors dir results)
    refine ⟨_, _, congrArg Except.ok loaded, rfl, ?_⟩
    simp only [extend, TrustStore.new, List.nil_append]
    rw [flatMap_eq_filter_iff]
    constructor
    · intro clean entry member
      exact
        (reportOf_or_anchorsOf_iff crates entry).1
          (clean entry (mem_sortEntries.2 (mem_entriesOf.2 member)))
    · intro clean entry member
      exact
        (reportOf_or_anchorsOf_iff crates entry).2
          (clean entry (mem_entriesOf.1 (mem_sortEntries.1 member)))

/-- An armored block around a base64 text. -/
def armored (text : Bytes) : Bytes :=
  beginMarker ++ [0x0A] ++ text ++ [0x0A] ++ endMarker ++ [0x0A]

/-- The root in an armored block. -/
def rootBlock : Bytes :=
  armored (Reference.base64Encode (Reference.encodeCertificate Reference.root))

/-- A bundle whose first block is the root and whose second is not base64. -/
def partialBundle : Bytes :=
  rootBlock ++ armored (asciiBytes "####")

/-- The bundle is refused, and the root has been added to the store. -/
theorem addPemData_partialBundle :
    ¬ UnchangedOnError
      (fun store =>
        store.addPemData (Reference.crates Reference.known)
          partialBundle) := by
  intro unchanged
  have same :=
    unchanged .new
      (TrustStore.new.addPemData (Reference.crates Reference.known)
        partialBundle).1
      (.certificateParse "base64 decode error: Invalid symbol 35, offset 0.")
      (by decide +kernel)
  revert same
  decide +kernel

/-! ## Accounting for every opening marker -/

/-- PEM data that loads: it has a complete block, and each is a certificate. -/
def Loads (data : Bytes) : Prop :=
  fromUtf8 data = .ok data ∧ (pemScan data).blocks ≠ [] ∧
    ∀ block ∈ (pemScan data).blocks, Accepts (loadPemBlock crates block.text)

/--
A marker belongs, in the sense of `belongs`, to a block that is closed and
whose certificate has been appended to the store.
-/
def Accounted (data : Bytes) (store after : TrustStore)
    (belongs : Block UInt8 → Prop) : Prop :=
  ∃ index block anchor,
    (pemScan data).blocks[index]? = some block ∧
      belongs block ∧ endMarker <:+ block.text ∧
      loadPemBlock crates block.text = .ok anchor ∧
      after.anchors[store.anchors.length + index]? = some anchor

/-- A successful load accounts for every opening marker of the data. -/
def AccountsForAll (data : Bytes)
    (belongs : Nat → Block UInt8 → Prop) : Prop :=
  ∀ store after, store.addPemData crates data = (after, .ok ()) →
    ∀ position, OccursAt beginMarker data position →
      Accounted crates data store after (belongs position)

/-- The marker lies inside the block. -/
def LiesIn (position : Nat) (block : Block UInt8) : Prop :=
  block.Covers position beginMarker.length

/-- The marker opens the block. -/
def Opens (position : Nat) (block : Block UInt8) : Prop :=
  block.start = position

theorem pemContribution_eq_none_iff (data : Bytes) :
    (pemContribution crates data).2 = none ↔ Loads crates data := by
  rw [pemContribution, Loads]
  cases valid : fromUtf8 data with
  | error e => simp
  | ok text =>
      have same : text = data := eq_of_fromUtf8 valid
      subst same
      simp only [true_and]
      by_cases empty : (pemScan text).blocks = []
      · simp [empty]
      · rw [if_neg (by simpa using empty), keepUntilError_eq_none_iff,
          List.forall_mem_map]
        simp [empty]

theorem pemContribution_of_loads
    {data : Bytes} (loads : Loads crates data) :
    pemContribution crates data =
      keepUntilError (loadPemBlock crates)
        ((pemScan data).blocks.map Block.text) := by
  rw [pemContribution, loads.1]
  simp only
  rw [if_neg (by simpa using loads.2.1)]

/-- A load accounts for every opening marker when every one belongs to a block. -/
theorem accountsForAll_iff_forall_exists
    (data : Bytes) (belongs : Nat → Block UInt8 → Prop) :
    AccountsForAll crates data belongs ↔
      (Loads crates data →
        ∀ position, OccursAt beginMarker data position →
          ∃ block ∈ (pemScan data).blocks, belongs position block) := by
  constructor
  · intro accounts loads position occurs
    have complete := (pemContribution_eq_none_iff crates data).2 loads
    have succeeded := addPemData_eq crates .new data
    rw [complete] at succeeded
    rcases accounts .new _ succeeded position occurs with
      ⟨index, block, anchor, present, inBlock, _, _, _⟩
    exact ⟨block, List.mem_of_getElem? present, inBlock⟩
  · intro covered store after succeeded position occurs
    rw [addPemData_eq, Prod.mk.injEq] at succeeded
    rcases succeeded with ⟨rfl, succeeded⟩
    have complete : (pemContribution crates data).2 = none := by
      cases failure : (pemContribution crates data).2 with
      | none => rfl
      | some e =>
          rw [failure] at succeeded
          cases succeeded
    have loads := (pemContribution_eq_none_iff crates data).1 complete
    have kept := pemContribution_of_loads crates loads
    rcases covered loads position occurs with ⟨block, member, inBlock⟩
    rcases List.mem_iff_getElem?.mp member with ⟨index, present⟩
    rw [kept] at complete
    have presentText :
        ((pemScan data).blocks.map Block.text)[index]? =
          some block.text := by
      rw [List.getElem?_map, present]
      rfl
    rcases keepUntilError_getElem? complete presentText with
      ⟨anchor, loaded, appended⟩
    refine ⟨index, block, anchor, present, inBlock, ?_, loaded, ?_⟩
    · exact
        closing_suffix_of_mem_scanFrom data.length 0 data block member
    · rw [extend, List.getElem?_append_right (Nat.le_add_right _ _),
        Nat.add_sub_cancel_left, kept]
      exact appended

/--
A successful load accounts for every opening marker, exactly when the data does
not load or no opening marker is lost: one that starts behind the last complete
block, or runs across the end of one.  When every opening marker must open a
block of its own, a marker inside another block is lost as well.
-/
theorem accountsForAll_iff :
    (∀ data,
        AccountsForAll crates data LiesIn ↔
          ¬ (Loads crates data ∧
            ∃ position,
              OccursAt beginMarker data position ∧
                ((pemScan data).stopped ≤ position ∨
                  ∃ block ∈ (pemScan data).blocks,
                    position < block.stop ∧
                      block.stop < position + beginMarker.length))) ∧
      ∀ data,
        AccountsForAll crates data Opens ↔
          ¬ (Loads crates data ∧
            ∃ position,
              OccursAt beginMarker data position ∧
                ((pemScan data).stopped ≤ position ∨
                  ∃ block ∈ (pemScan data).blocks,
                    block.start < position ∧ position < block.stop)) := by
  have nonempty : 0 < beginMarker.length := by decide +kernel
  have closesBehind : ClosesBehind beginMarker endMarker := by
    decide +kernel
  constructor
  · intro data
    rw [accountsForAll_iff_forall_exists]
    constructor
    · intro covered lost
      rcases lost with ⟨loads, position, occurs, behind⟩
      have located :=
        (exists_covers_iff nonempty occurs).1 (covered loads position occurs)
      rcases behind with late | ⟨block, member, before, across⟩
      · exact absurd located.1 (Nat.not_lt.mpr late)
      · exact located.2 block member ⟨before, across⟩
    · intro notLost loads position occurs
      apply (exists_covers_iff nonempty occurs).2
      constructor
      · by_contra late
        exact
          notLost
            ⟨loads, position, occurs, .inl (Nat.not_lt.mp late)⟩
      · intro block member across
        exact
          notLost ⟨loads, position, occurs, .inr ⟨block, member, across⟩⟩
  · intro data
    rw [accountsForAll_iff_forall_exists]
    constructor
    · intro opened lost
      rcases lost with ⟨loads, position, occurs, behind⟩
      have located :=
        (exists_start_eq_iff nonempty closesBehind occurs).1
          (opened loads position occurs)
      rcases behind with late | ⟨block, member, inside⟩
      · exact absurd located.1 (Nat.not_lt.mpr late)
      · exact located.2 block member inside
    · intro notLost loads position occurs
      apply (exists_start_eq_iff nonempty closesBehind occurs).2
      constructor
      · by_contra late
        exact
          notLost
            ⟨loads, position, occurs, .inl (Nat.not_lt.mp late)⟩
      · intro block member inside
        exact
          notLost ⟨loads, position, occurs, .inr ⟨block, member, inside⟩⟩

/-- A bundle whose first block is the root and whose second is cut off. -/
def truncatedBundle : Bytes :=
  rootBlock ++ beginMarker ++ asciiBytes "\nMIIB"

/-- The truncated bundle is accepted, and its second marker is in no block. -/
theorem addPemData_truncatedBundle :
    ¬ AccountsForAll (Reference.crates Reference.known) truncatedBundle
      LiesIn := by
  intro accounts
  have loaded :
      ∃ after,
        TrustStore.new.addPemData (Reference.crates Reference.known)
          truncatedBundle = (after, .ok ()) :=
    ⟨⟨[Reference.rootAnchor], none, .strict⟩, by decide +kernel⟩
  have occurs :
      OccursAt beginMarker truncatedBundle rootBlock.length :=
    List.isPrefixOf_iff_prefix.mp (by decide +kernel)
  have outside :
      ∀ block ∈ (pemScan truncatedBundle).blocks,
        block.stop < rootBlock.length := by
    decide +kernel
  rcases loaded with ⟨after, loaded⟩
  rcases accounts .new after loaded rootBlock.length occurs with
    ⟨index, block, _, present, inBlock, _⟩
  have before := outside block (List.mem_of_getElem? present)
  have reached : rootBlock.length ≤ block.stop :=
    Nat.le_of_add_right_le inBlock.2
  exact Nat.not_lt.mpr reached before

end RitspLtv.Trust.AnchorLoading
