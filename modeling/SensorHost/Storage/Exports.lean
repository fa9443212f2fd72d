import Mathlib.Data.Char
import Mathlib.Data.List.Lex
import Mathlib.Data.Prod.Lex
import Mathlib.Data.Rat.Floor
import Mathlib.Order.Basic
import SensorHost.Lib.Gives
import SensorHost.Lib.Text

/-!
# The export library

Model of `scan_exports` of `storage/archive_library.py`: the archive files below the export root, each
with the fields of its JSON sidecar. A sidecar that cannot be read counts as empty, but a field of one
that can may still be refused by the conversions, and then the whole scan raises. The scan lists every
archive file exactly if none is refused (`scanExports_lists_iff`).

A sidecar is any value that JSON has (`Json`), or an error of reading it; the file system and what
prints values and times are parameters. Where the source falls back on a default, the default is in
the model; where it converts without a `try`, the error leaves the scan. `entryFor_eq_ok_iff` says
when one entry is made, and the theorem about the scan is an induction over the files with it. The
order of the entries is that of a stable sort by the start and the name (`pairwise_sortKey`).
-/

namespace SensorHost.Storage
open SensorHost.Lib

/-- A float of Python. -/
inductive PyFloat where
  | finite (value : ℚ)
  | infinite (negative : Bool)
  | nan
  deriving DecidableEq

/-- What `json.loads` gives. The fields of an object are in the order of the dict. -/
inductive Json where
  | null
  | bool (b : Bool)
  | int (n : Int)
  | float (x : PyFloat)
  | string (s : Text)
  | array (items : List Json)
  | object (fields : List (Text × Json))

/-- What a conversion or `json.loads` raises. -/
inductive PyError where
  | value
  | type
  | overflow
  | os
  | recursion
  deriving DecidableEq

namespace Json

/-- `bool(value)`. -/
def truthy : Json → Bool
  | null => false
  | bool b => b
  | int n => n != 0
  | float (.finite x) => x != 0
  | float _ => true
  | string s => !s.isEmpty
  | array items => !items.isEmpty
  | object fields => !fields.isEmpty

/-- `int(value)`. -/
def toInt : Json → Except PyError Int
  | bool b => .ok (if b then 1 else 0)
  | int n => .ok n
  | float (.finite x) => .ok (x.num.tdiv x.den)
  | float (.infinite _) => .error .overflow
  | float .nan => .error .value
  | string s =>
    match parseInt 10 s with
    | some n => .ok n
    | none => .error .value
  | null | array _ | object _ => .error .type

end Json

/-- `value or default`, where a missing value is `None`. -/
def valueOr (value : Option Json) (default : Json) : Json :=
  match value with
  | some v => if v.truthy then v else default
  | none => default

/-- A path: the parts before the name, and the name. -/
structure ExportPath where
  parent : List Text
  name : Text
  deriving DecidableEq

/-- `path.suffix`. A dot at the front or at the end of a name begins no suffix. -/
def ExportPath.suffix (path : ExportPath) : Text :=
  let tail := (path.name.reverse.takeWhile (· ≠ '.')).reverse
  if tail = [] ∨ path.name.length ≤ tail.length + 1 then [] else '.' :: tail

/-- `path.with_suffix(suffix)`. -/
def ExportPath.withSuffix (path : ExportPath) (suffix : Text) : ExportPath :=
  { path with name := path.name.take (path.name.length - path.suffix.length) ++ suffix }

/-- What `path.stat()` gives. -/
structure FileStat where
  stSize : Nat
  stMtime : ℚ

/-- What the scan reads of the file system. -/
structure ExportFiles where
  /-- `export_root.exists()`. -/
  rootExists : Bool
  /-- The paths that `export_root.rglob("*.sdf1")` goes through. -/
  rglob : List ExportPath
  isFile : ExportPath → Bool
  /-- What `json.loads(sidecar.read_text())` gives or raises, if the sidecar exists. -/
  loads : ExportPath → Option (Except PyError Json)
  /-- What `path.stat()` gives; none is its `OSError`. -/
  stat : ExportPath → Option FileStat

/-- How values other than texts, and times, are written. -/
structure Printing where
  /-- `str(value)`. -/
  repr : Json → Text
  /-- `datetime.fromtimestamp(modified, timezone.utc).isoformat()`. -/
  isoformat : ℚ → Except PyError Text

/-- `str(value)`. -/
def Printing.str (print : Printing) : Json → Text
  | .string s => s
  | value => print.repr value

/-- `ExportEntry`. -/
structure ExportEntry where
  path : ExportPath
  name : Text
  startedUtc : Text
  endedUtc : Text
  bytesWritten : Int
  status : Text
  «alias» : Text
  uuid : Text
  deriving DecidableEq

namespace ExportFiles

variable (print : Printing) (files : ExportFiles)

/-- The `metadata` of `_entry_for`. -/
def metadata (path : ExportPath) : Except PyError (List (Text × Json)) :=
  match files.loads (path.withSuffix ".json".toList) with
  | none => .ok []
  | some (.error .os) | some (.error .value) => .ok []
  | some (.error error) => .error error
  | some (.ok (.object fields)) => .ok fields
  | some (.ok _) => .ok []

/-- `size` and `modified` of `_entry_for`. -/
def sizeModified (path : ExportPath) : Nat × ℚ :=
  match files.stat path with
  | some stat => (stat.stSize, stat.stMtime)
  | none => (0, 0)

/-- The `started` of `_entry_for`. -/
def started (metadata : List (Text × Json)) (modified : ℚ) : Except PyError Text :=
  let started := print.str (valueOr (metadata.lookup "started_utc".toList) (.string []))
  if started = [] then print.isoformat modified else .ok started

/-- `_entry_for`. -/
def entryFor (path : ExportPath) : Except PyError ExportEntry := do
  let metadata ← files.metadata path
  let (size, modified) := files.sizeModified path
  let started ← started print metadata modified
  let field (key : String) (default : String) : Text :=
    print.str (valueOr (metadata.lookup key.toList) (.string default.toList))
  let bytesWritten ← (valueOr (metadata.lookup "bytes_written".toList) (.int size)).toInt
  return {
    path := path
    name := path.name
    startedUtc := started
    endedUtc := field "ended_utc" ""
    bytesWritten := bytesWritten
    status := field "status" "unknown"
    «alias» := field "alias" ""
    uuid := field "uuid" "" }

/-- The loop of `scan_exports`. -/
def scanPaths : List ExportPath → Except PyError (List ExportEntry)
  | [] => .ok []
  | path :: paths =>
    if files.isFile path then do
      let entry ← files.entryFor print path
      let entries ← scanPaths paths
      return entry :: entries
    else scanPaths paths

end ExportFiles

/-- The key of the sort in `scan_exports`. -/
def ExportEntry.sortKey (entry : ExportEntry) : Text ×ₗ Text := toLex (entry.startedUtc, entry.name)

/-- `scan_exports`. The sort is stable, and newest first. -/
def scanExports (print : Printing) (files : ExportFiles) : Except PyError (List ExportEntry) :=
  if files.rootExists then do
    let entries ← files.scanPaths print files.rglob
    return entries.mergeSort fun a b => decide (b.sortKey ≤ a.sortKey)
  else .ok []

/-- `int` takes the value. -/
def Json.Convertible : Json → Prop
  | .bool _ | .int _ | .float (.finite _) => True
  | .string s => (parseInt 10 s).isSome
  | _ => False

/-- Which values `int` converts. -/
lemma Json.toInt_eq_ok_iff (value : Json) : (∃ n, value.toInt = .ok n) ↔ value.Convertible := by
  cases value with
  | bool b => exact iff_of_true ⟨_, rfl⟩ trivial
  | int n => exact iff_of_true ⟨n, rfl⟩ trivial
  | float x =>
    cases x with
    | finite x => exact iff_of_true ⟨_, rfl⟩ trivial
    | infinite negative => exact iff_of_false (fun ⟨_, h⟩ => nomatch h) id
    | nan => exact iff_of_false (fun ⟨_, h⟩ => nomatch h) id
  | string s =>
    have htext : (Json.string s).Convertible ↔ (parseInt 10 s).isSome := Iff.rfl
    rw [htext]
    unfold Json.toInt
    dsimp only
    cases parseInt 10 s with
    | none => exact iff_of_false (fun ⟨_, h⟩ => nomatch h) Bool.false_ne_true
    | some n => exact iff_of_true ⟨n, rfl⟩ rfl
  | null => exact iff_of_false (fun ⟨_, h⟩ => nomatch h) id
  | array items => exact iff_of_false (fun ⟨_, h⟩ => nomatch h) id
  | object fields => exact iff_of_false (fun ⟨_, h⟩ => nomatch h) id

/-- A value that stands for a missing one is converted where every value that counts is. -/
lemma valueOr_convertible_iff (value : Option Json) (size : Nat) :
    (valueOr value (.int size)).Convertible ↔
      ∀ v, value = some v → v.truthy = true → v.Convertible := by
  cases value with
  | none => exact iff_of_true trivial fun _ h => nomatch h
  | some v =>
    unfold valueOr
    dsimp only
    split
    · rename_i htruthy
      constructor
      · rintro h w hw -
        cases hw
        exact h
      · exact fun h => h v rfl htruthy
    · rename_i hfalsy
      refine iff_of_true trivial fun w hw htruthy => ?_
      cases hw
      exact absurd htruthy hfalsy

namespace ExportFiles

variable {print : Printing} {files : ExportFiles} {path : ExportPath}

/-- The sidecar of an archive file. -/
def sidecar (path : ExportPath) : ExportPath := path.withSuffix ".json".toList

/-- The fields that the sidecar of an archive file gives. -/
def fields (files : ExportFiles) (path : ExportPath) : List (Text × Json) :=
  match files.loads (sidecar path) with
  | some (.ok (.object fields)) => fields
  | _ => []

/-- The scan takes an archive file. -/
structure Listable (print : Printing) (files : ExportFiles) (path : ExportPath) : Prop where
  /-- The sidecar is not nested too deep. -/
  read : ∀ error, files.loads (sidecar path) = some (.error error) → error = .os ∨ error = .value
  /-- A number of bytes that is neither missing nor false is one that `int` takes. -/
  counted : ∀ value, (files.fields path).lookup "bytes_written".toList = some value →
    value.truthy = true → value.Convertible
  /-- A file whose sidecar gives no time has one of its own. -/
  dated : print.str (valueOr ((files.fields path).lookup "started_utc".toList) (.string [])) = [] →
    ∃ text, print.isoformat (files.sizeModified path).2 = .ok text

/-- A sidecar is read unless `json.loads` raises something else than is caught. -/
lemma metadata_eq_ok_iff {metadata : List (Text × Json)} :
    files.metadata path = .ok metadata ↔
      (∀ error, files.loads (sidecar path) = some (.error error) → error = .os ∨ error = .value) ∧
        files.fields path = metadata := by
  unfold ExportFiles.metadata fields sidecar
  cases files.loads (path.withSuffix ".json".toList) with
  | none => simp
  | some loaded =>
    cases loaded with
    | error error => cases error <;> simp
    | ok value => cases value <;> simp

/-- The start can be told if the sidecar says it, or the file's time is one. -/
lemma started_eq_ok_iff {metadata : List (Text × Json)} {modified : ℚ} :
    (∃ text, started print metadata modified = .ok text) ↔
      (print.str (valueOr (metadata.lookup "started_utc".toList) (.string [])) = [] →
        ∃ text, print.isoformat modified = .ok text) := by
  unfold started
  dsimp only
  split
  · rename_i hempty
    exact ⟨fun h _ => h, fun h => h hempty⟩
  · rename_i hgiven
    exact iff_of_true ⟨_, rfl⟩ fun hempty => absurd hempty hgiven

/-- The entry of an archive file is of that file. -/
lemma entryFor_path {entry : ExportEntry} (h : files.entryFor print path = .ok entry) :
    entry.path = path := by
  obtain ⟨_, -, h⟩ := bind_eq_ok.mp h
  obtain ⟨_, -, h⟩ := bind_eq_ok.mp h
  obtain ⟨_, -, h⟩ := bind_eq_ok.mp h
  cases h
  rfl

/-- An archive file has an entry exactly if the scan takes it. -/
lemma entryFor_eq_ok_iff :
    (∃ entry, files.entryFor print path = .ok entry) ↔ Listable print files path := by
  unfold entryFor
  constructor
  · rintro ⟨entry, h⟩
    obtain ⟨metadata, hmetadata, h⟩ := bind_eq_ok.mp h
    obtain ⟨started, hstarted, h⟩ := bind_eq_ok.mp h
    obtain ⟨bytesWritten, hbytes, -⟩ := bind_eq_ok.mp h
    obtain ⟨hread, rfl⟩ := metadata_eq_ok_iff.mp hmetadata
    exact {
      read := hread
      counted := (valueOr_convertible_iff _ _).mp ((Json.toInt_eq_ok_iff _).mp ⟨_, hbytes⟩)
      dated := started_eq_ok_iff.mp ⟨_, hstarted⟩ }
  · intro h
    have hmetadata := metadata_eq_ok_iff.mpr ⟨h.read, rfl⟩
    obtain ⟨started, hstarted⟩ := started_eq_ok_iff.mpr h.dated
    obtain ⟨bytesWritten, hbytes⟩ := (Json.toInt_eq_ok_iff _).mpr
      ((valueOr_convertible_iff _ (files.sizeModified path).1).mpr h.counted)
    exact ⟨_, bind_eq_ok.mpr ⟨_, hmetadata, bind_eq_ok.mpr ⟨_, hstarted,
      bind_eq_ok.mpr ⟨_, hbytes, rfl⟩⟩⟩⟩

/-- The loop has one entry for every archive file. -/
lemma scanPaths_paths {paths : List ExportPath} {entries : List ExportEntry}
    (h : files.scanPaths print paths = .ok entries) :
    entries.map ExportEntry.path = paths.filter files.isFile := by
  induction paths generalizing entries with
  | nil =>
    cases h
    rfl
  | cons path paths ih =>
    unfold scanPaths at h
    split at h
    · rename_i hfile
      obtain ⟨entry, hentry, h⟩ := bind_eq_ok.mp h
      obtain ⟨rest, hrest, h⟩ := bind_eq_ok.mp h
      cases h
      rw [List.filter_cons_of_pos hfile, List.map_cons, entryFor_path hentry, ih hrest]
    · rename_i hfile
      rw [List.filter_cons_of_neg hfile, ih h]

/-- The loop ends exactly if the scan takes every archive file. -/
lemma scanPaths_eq_ok_iff {paths : List ExportPath} :
    (∃ entries, files.scanPaths print paths = .ok entries) ↔
      ∀ path ∈ paths.filter files.isFile, Listable print files path := by
  induction paths with
  | nil => exact iff_of_true ⟨[], rfl⟩ fun _ h => nomatch h
  | cons path paths ih =>
    unfold scanPaths
    split
    · rename_i hfile
      rw [List.filter_cons_of_pos hfile, List.forall_mem_cons, ← ih, ← entryFor_eq_ok_iff]
      constructor
      · rintro ⟨entries, h⟩
        obtain ⟨entry, hentry, h⟩ := bind_eq_ok.mp h
        obtain ⟨rest, hrest, -⟩ := bind_eq_ok.mp h
        exact ⟨⟨entry, hentry⟩, rest, hrest⟩
      · rintro ⟨⟨entry, hentry⟩, rest, hrest⟩
        exact ⟨_, bind_eq_ok.mpr ⟨entry, hentry, bind_eq_ok.mpr ⟨rest, hrest, rfl⟩⟩⟩
    · rename_i hfile
      rw [List.filter_cons_of_neg hfile, ih]

/-- The archive files below the export root. -/
def archives (files : ExportFiles) : List ExportPath :=
  if files.rootExists then files.rglob.filter files.isFile else []

end ExportFiles

/-- The list has exactly one entry for each archive file, newest first. -/
structure Lists (files : ExportFiles) (entries : List ExportEntry) : Prop where
  paths : (entries.map ExportEntry.path).Perm files.archives
  sorted : entries.Pairwise fun a b => b.sortKey ≤ a.sortKey

/-- The entries are sorted downwards. -/
lemma pairwise_sortKey (entries : List ExportEntry) :
    (entries.mergeSort fun a b => decide (b.sortKey ≤ a.sortKey)).Pairwise
      fun a b => b.sortKey ≤ a.sortKey := by
  refine (List.pairwise_mergeSort (fun a b c hab hbc => ?_) (fun a b => ?_) entries).imp
    of_decide_eq_true
  · exact decide_eq_true ((of_decide_eq_true hbc).trans (of_decide_eq_true hab))
  · rw [Bool.or_eq_true, decide_eq_true_eq, decide_eq_true_eq]
    exact le_total b.sortKey a.sortKey

/-- What the scan returns, if it returns. -/
lemma scanExports_lists {print : Printing} {files : ExportFiles} {entries : List ExportEntry}
    (h : scanExports print files = .ok entries) : Lists files entries := by
  unfold scanExports at h
  split at h
  · rename_i hroot
    obtain ⟨found, hfound, h⟩ := bind_eq_ok.mp h
    cases h
    refine ⟨?_, pairwise_sortKey found⟩
    rw [ExportFiles.archives, if_pos hroot, ← ExportFiles.scanPaths_paths hfound]
    exact (List.mergeSort_perm found _).map ExportEntry.path
  · rename_i hroot
    cases h
    refine ⟨?_, .nil⟩
    rw [ExportFiles.archives, if_neg hroot]
    rfl

/-- The scan lists every archive file, newest first, exactly if it takes every one of them. -/
theorem scanExports_lists_iff (print : Printing) (files : ExportFiles) :
    (∃ entries, scanExports print files = .ok entries ∧ Lists files entries) ↔
      ∀ path ∈ files.archives, ExportFiles.Listable print files path := by
  have hreturns : (∃ entries, scanExports print files = .ok entries) ↔
      ∀ path ∈ files.archives, ExportFiles.Listable print files path := by
    unfold scanExports ExportFiles.archives
    split
    · rw [← ExportFiles.scanPaths_eq_ok_iff]
      constructor
      · rintro ⟨entries, h⟩
        obtain ⟨found, hfound, -⟩ := bind_eq_ok.mp h
        exact ⟨found, hfound⟩
      · rintro ⟨found, hfound⟩
        exact ⟨_, bind_eq_ok.mpr ⟨found, hfound, rfl⟩⟩
    · exact iff_of_true ⟨[], rfl⟩ fun _ h => nomatch h
  rw [← hreturns]
  exact ⟨fun ⟨entries, h, _⟩ => ⟨entries, h⟩, fun ⟨entries, h⟩ => ⟨entries, h, scanExports_lists h⟩⟩

/-- Texts are printed as they are, null as "None", and the only time is the start of the epoch. -/
def epochPrinting : Printing where
  repr := fun _ => "None".toList
  isoformat := fun modified =>
    if modified = 0 then .ok "1970-01-01T00:00:00+00:00".toList else .error .value

/-- Two exports, with what the sidecar of the first has for its number of bytes. -/
def twoExports (bytesWritten : Json) : ExportFiles where
  rootExists := true
  rglob :=
    [⟨["node-a".toList], "export-001.sdf1".toList⟩, ⟨["node-b".toList], "export-001.sdf1".toList⟩]
  isFile := fun _ => true
  loads := fun path =>
    if path = ⟨["node-a".toList], "export-001.json".toList⟩ then
      some (.ok (.object [("bytes_written".toList, bytesWritten)]))
    else none
  stat := fun _ => some ⟨4321, 0⟩

/-- One number that is none hides both exports. -/
theorem scanExports_lists_unknown :
    ¬ ∃ entries, scanExports epochPrinting (twoExports (.string "unknown".toList)) = .ok entries ∧
      Lists (twoExports (.string "unknown".toList)) entries := by
  have hraises :
      scanExports epochPrinting (twoExports (.string "unknown".toList)) = .error .value := by
    decide
  rintro ⟨entries, h, -⟩
  cases hraises.symm.trans h

end SensorHost.Storage
