import SensorHost.Acquisition.UuidReply
import SensorHost.Lib.Dict
import SensorHost.Presentation.Changes
import SensorHost.Presentation.Routed

/-!
# The paths of recordings and exports

A file is numbered by what was started before it for the same device, told apart by the whole UUID,
while its path has the first eight digits of the UUID only, behind the alias with its unsafe characters
replaced. So the files of one device never share a path, and the files of two devices can.

When they do is said of the history of what was started (`Start`), in which the numbers do not stand:
two starts of different devices clash (`Spelling.Clash`) if they are of one kind into one directory,
their aliases and the first eight digits of their UUIDs look the same, and as many files of the kind
were started before for the one device as for the other.

Some file systems take two spellings of a name for one, like those that ignore the case; then the
paths are the same as far as the spelling goes (`Spelling`). `startedPaths_nodup_iff` is about every
such notion.
-/

namespace SensorHost.Presentation
open SensorHost.Lib SensorHost.Protocol SensorHost.Storage SensorHost.Acquisition SensorHost.Ota
  SensorHost.Transport

variable {crc32 : Bytes → UInt32} {b b' : Book} {c d e : AppController} {s : ManagedSession}

/-- What starts files may be followed by more of them. -/
lemma Quiet.leads (h : Quiet d e) (hbook : c.book.Leads d.book) : c.book.Leads e.book :=
  hbook.trans h.book

/-- `select_node` starts files at most. -/
lemma book_selectNode (c : AppController) (nodeId : Text) :
    c.book.Leads (c.selectNode nodeId).book := by
  unfold AppController.selectNode AppController.withSession
  cases c.session? nodeId with
  | none => exact .refl
  | some s => exact Quiet.leads (Quiet.refl _).emitOtaAvailability .refl

/-- `_add_session` starts files at most. -/
lemma book_addSession {nodeId peer : Text} {kind : TransportKind}
    (h : c.addSession nodeId peer kind = .ok d) : c.book.Leads d.book := by
  unfold AppController.addSession at h
  cases hadd : c.sessionIndex.addSession nodeId kind peer with
  | error error =>
    rw [hadd] at h
    cases h
  | ok sessionIndex =>
    rw [hadd] at h
    cases h
    let e : AppController := { c with
      sessionIndex := sessionIndex
      sessions := c.sessions ++
        [AppController.newSession c.nextSession nodeId peer kind c.recordingActive]
      nextSession := c.nextSession + 1 }
    have hselected :
        e.book.Leads (if e.selectedNodeId.isNone then e.selectNode nodeId else e).book := by
      split
      · exact book_selectNode e nodeId
      · exact .refl
    exact Quiet.leads (Quiet.refl _).emitNodes hselected

/-- `connect_device` starts files at most. -/
lemma book_connectDevice (h : Host) (deviceId : Text) :
    c.book.Leads (c.connectDevice h deviceId).book := by
  unfold AppController.connectDevice
  split
  · exact .refl
  · split
    · exact .refl
    · split
      · exact .refl
      · split
        · rename_i hadd
          exact book_addSession hadd
        · exact .refl

/-- `accept_gateway_client` starts files at most. -/
lemma book_acceptGatewayClient (client : AcceptedGatewayClient) :
    c.book.Leads (c.acceptGatewayClient client).book := by
  unfold AppController.acceptGatewayClient
  split
  · exact .refl
  · split
    · rename_i hadd
      exact book_addSession hadd
    · exact .refl

/-- `stop_wifi_server` starts files at most. -/
lemma book_stopWifiServer (h : Host) (apart : (c.sessions.map ManagedSession.sid).Nodup) :
    c.book.Leads (c.stopWifiServer h).book := by
  have hquiet := quiet_stopWifiResources (c := c) h
  have hstopped : c.book.Leads (c.stopWifiResources h).book := hquiet.book
  unfold AppController.stopWifiServer
  dsimp only
  split
  · obtain ⟨d, hdropped, hbook, -⟩ := disconnectDevice_eq h (hquiet.sids ▸ apart)
    show c.book.Leads ((c.stopWifiResources h).disconnectDevice h).book
    rw [hbook]
    exact hstopped.trans hdropped.book
  · exact hstopped

/-- `_poll_ota_reconnect` starts files at most. -/
lemma book_pollOtaReconnect (h : Host) (apart : (c.sessions.map ManagedSession.sid).Nodup) :
    c.book.Leads (c.pollOtaReconnect h).book := by
  unfold AppController.pollOtaReconnect
  split
  · exact .refl
  · rename_i info _
    split
    · exact (quiet_finishOtaReconnect _ _).book
    · dsimp only
      split
      · have happart := (attemptOtaCdcReopen_eq h info.deviceId apart).2
        refine (Quiet.pollSessions (.refl _) happart _ _).leads ?_
        unfold AppController.attemptOtaCdcReopen
        split
        · exact .refl
        · split
          · rename_i hadd
            exact book_addSession hadd
          · exact .refl
      · exact (Quiet.pollSessions (.refl _) apart _ _).book

/-- Every event does no more to the book than starting files. -/
theorem step_book (crc32 : Bytes → UInt32) (e : Event)
    (apart : (c.sessions.map ManagedSession.sid).Nodup) :
    c.book.Leads (c.step crc32 e).book := by
  -- only these events touch the listener or the sessions
  by_cases hroutes : e.Routes
  · cases e with
    | operation h o =>
      cases o with
      | startWifiServer endpoint =>
        show c.book.Leads (c.startWifiServer h endpoint).book
        unfold AppController.startWifiServer
        split
        · exact .refl
        · split
          · exact .refl
          · exact .refl
      | stopWifiServer => exact book_stopWifiServer h apart
      | connectDevice deviceId => exact book_connectDevice h deviceId
      | disconnectDevice =>
        show c.book.Leads (c.disconnectDevice h).book
        obtain ⟨d, hdropped, hbook, -⟩ := disconnectDevice_eq h apart
        rw [hbook]
        exact hdropped.book
      | selectNode nodeId => exact book_selectNode c nodeId
      | acceptGatewayClient client => exact book_acceptGatewayClient client
      | _ => exact hroutes.elim
    | pollOtaReconnect h =>
      rw [AppController.step]
      split
      · exact book_pollOtaReconnect h apart
      · exact .refl
    | threadFinished h sid =>
      rw [AppController.step]
      unfold AppController.onSession
      split
      · exact .refl
      · rename_i s hsession
        have known : Known c s := known_of_mem apart (sessionBySid?_some hsession).1
        dsimp only
        split
        · cases hrunning : c.isStopping with
          | true =>
            unfold AppController.onThreadFinished
            rw [if_pos hrunning]
            exact .refl
          | false => exact (onThreadFinished_eq h known hrunning).2
        · exact .refl
    | acceptFailed message =>
      rw [AppController.step]
      split
      · exact .refl
      · exact .refl
    | gatewayEnvelope =>
      rw [AppController.step]
      split
      · exact .refl
      · rename_i envelope envelopes _
        unfold AppController.acceptGatewayEnvelope
        split
        · exact book_acceptGatewayClient (c := { c with envelopes }) envelope.client
        · exact .refl
    | acceptSocket peer =>
      rw [AppController.step]
      split
      · exact .refl
      · exact .refl
    | _ => exact hroutes.elim
  · exact (quiet_step crc32 hroutes apart).book

/-- A run does no more to the book than starting files. -/
lemma run_book (crc32 : Bytes → UInt32) (aliases : List (Text × Text)) (events : List Event) :
    (AppController.initial aliases).book.Leads (AppController.run crc32 aliases events).book := by
  suffices hrun : WellFormed (AppController.run crc32 aliases events) ∧
      (AppController.initial aliases).book.Leads (AppController.run crc32 aliases events).book from
    hrun.2
  refine runFrom_invariant (I := fun c => WellFormed c ∧
    (AppController.initial aliases).book.Leads c.book) ?_ ⟨wellFormed_initial aliases, .refl⟩ events
  intro c e hc
  exact ⟨wellFormed_step crc32 e hc.1, hc.2.trans (step_book crc32 e hc.1.nodup)⟩

/-- The alias of a device, as it stands in a path. -/
def safeAlias (aliasName : Text) : Text :=
  let safe := stripBy (fun ch => ch == '-' || ch == '.' || ch == '_')
    (AppController.safePathText false (if aliasName = [] then "node".toList else aliasName))
  if safe = [] then "node".toList else safe

/-- The directory has the alias and the first digits of the UUID. -/
lemma nodeDirectory_eq (aliasName : Text) (uuid : Uuid) :
    nodeDirectory aliasName uuid = safeAlias aliasName ++ '-' :: shortUuid uuid := rfl

/-- The suffix has eight digits. -/
lemma length_shortUuid (uuid : Uuid) : (shortUuid uuid).length = 8 := by
  rw [shortUuid, List.length_take, length_uuidHex]
  rfl

/-- Numbers are told apart by how they are written. -/
lemma render3_injective : Function.Injective AppController.render3 := by
  have hread : ∀ n, readDigits 10 0 false (AppController.render3 n) = some n := by
    intro n
    have hdigits : readDigits 10 0 false ((Nat.toDigits 10 n).map id) = some n :=
      readDigits_toDigits (by decide) (fun d hd => digitValue_digitChar hd) n
    rw [List.map_id] at hdigits
    exact (readDigits_zeros (by decide) _).trans hdigits
  intro m n h
  exact Option.some.inj ((hread m).symm.trans ((congrArg _ h).trans (hread n)))

/-- A number is written with digits. -/
lemma mem_render3 {n : Nat} : ∀ ch ∈ AppController.render3 n, ch ∈ numeralChars := by
  intro ch hch
  cases List.mem_append.mp hch with
  | inl hzero =>
    rw [(List.mem_replicate.mp hzero).2]
    decide
  | inr hdigit => exact toDigits_mem ch hdigit

/-- How a file system spells the characters of a name. It tells digits and the two kinds of files
apart. -/
structure Spelling where
  char : Char → Char
  hex : ∀ a ∈ hexChars, ∀ b ∈ hexChars, char a = char b → a = b
  numerals : ∀ a ∈ numeralChars, ∀ b ∈ numeralChars, char a = char b → a = b
  kinds : char 's' ≠ char 'e'

namespace Spelling

/-- Every name is spelled as it is. -/
def exact : Spelling where
  char := id
  hex _ _ _ _ h := h
  numerals _ _ _ _ h := h
  kinds := by decide

/-- The case of letters makes no difference. -/
def caseless : Spelling where
  char := Char.toLower
  hex := by decide
  numerals := by decide
  kinds := by decide

variable (F : Spelling)

/-- A name as it is spelled. -/
def text (name : Text) : Text := name.map F.char

/-- A path as it is spelled. -/
def path (p : Path) : Path := p.map F.text

variable {F}

/-- Names of characters that are told apart are. -/
lemma text_injective {chars : Text}
    (h : ∀ a ∈ chars, ∀ b ∈ chars, F.char a = F.char b → a = b) {s t : Text}
    (hs : ∀ ch ∈ s, ch ∈ chars) (ht : ∀ ch ∈ t, ch ∈ chars) (heq : F.text s = F.text t) :
    s = t := by
  induction s generalizing t with
  | nil =>
    cases t with
    | nil => rfl
    | cons b t => cases heq
  | cons a s ih =>
    cases t with
    | nil => cases heq
    | cons b t =>
      obtain ⟨hhead, htail⟩ := List.cons.inj heq
      rw [h a (hs a List.mem_cons_self) b (ht b List.mem_cons_self) hhead,
        ih (fun ch hch => hs ch (List.mem_cons_of_mem a hch))
          (fun ch hch => ht ch (List.mem_cons_of_mem b hch)) htail]

/-- The name of a file tells its kind and its number. -/
lemma fileName_injective {kind kind' : FileKind} {n n' : Nat}
    (h : F.text (kind.fileName n) = F.text (kind'.fileName n')) : kind = kind' ∧ n = n' := by
  have hkind : kind = kind' := by
    cases kind <;> cases kind'
    · rfl
    · exact absurd (List.cons.inj h).1 F.kinds
    · exact absurd (List.cons.inj h).1.symm F.kinds
    · rfl
  subst hkind
  have hnumber : F.text (AppController.render3 n) = F.text (AppController.render3 n') := by
    cases kind <;>
    · unfold FileKind.fileName text at h
      rw [List.map_append, List.map_append, List.map_append, List.map_append] at h
      exact List.append_cancel_left (List.append_cancel_right h)
  exact ⟨rfl, render3_injective (text_injective F.numerals mem_render3 mem_render3 hnumber)⟩

/-- The directory of a device tells how its alias is spelled, and the first digits of its UUID. -/
lemma nodeDirectory_injective {aliasName aliasName' : Text} {uuid uuid' : Uuid} :
    F.text (nodeDirectory aliasName uuid) = F.text (nodeDirectory aliasName' uuid') ↔
      F.text (safeAlias aliasName) = F.text (safeAlias aliasName') ∧
        shortUuid uuid = shortUuid uuid' := by
  have hsplit : ∀ aliasName uuid, F.text (nodeDirectory aliasName uuid) =
      F.text (safeAlias aliasName) ++ F.char '-' :: F.text (shortUuid uuid) := by
    intro aliasName uuid
    rw [nodeDirectory_eq]
    exact List.map_append
  have hmem : ∀ uuid, ∀ ch ∈ shortUuid uuid, ch ∈ hexChars :=
    fun uuid ch hch => mem_uuidHex ch (List.mem_of_mem_take hch)
  have hlength : ∀ uuid, (F.char '-' :: F.text (shortUuid uuid)).length = 9 := by
    intro uuid
    unfold text
    rw [List.length_cons, List.length_map, length_shortUuid]
  rw [hsplit, hsplit]
  constructor
  · intro h
    obtain ⟨halias, hsuffix⟩ := List.append_inj' h ((hlength uuid).trans (hlength uuid').symm)
    exact ⟨halias, text_injective F.hex (hmem uuid) (hmem uuid') (List.cons.inj hsuffix).2⟩
  · rintro ⟨halias, hshort⟩
    rw [halias, hshort]

/-- What the path of a file tells of it. -/
lemma path_eq_iff {f g : FileName} :
    F.path f.path = F.path g.path ↔ f.kind = g.kind ∧ F.path f.base = F.path g.base ∧
      f.number = g.number ∧ F.text (safeAlias f.aliasName) = F.text (safeAlias g.aliasName) ∧
        shortUuid f.uuid = shortUuid g.uuid := by
  unfold FileName.path path
  rw [List.map_append, List.map_append]
  constructor
  · intro h
    obtain ⟨hbase, hrest⟩ := List.append_inj' h rfl
    obtain ⟨hdirectory, hrest⟩ := List.cons.inj hrest
    obtain ⟨hkind, hnumber⟩ := fileName_injective (List.cons.inj hrest).1
    obtain ⟨halias, hshort⟩ := nodeDirectory_injective.mp hdirectory
    exact ⟨hkind, hbase, hnumber, halias, hshort⟩
  · rintro ⟨hkind, hbase, hnumber, halias, hshort⟩
    rw [hbase, hkind, hnumber]
    exact congrArg (fun d => _ ++ [d, _]) (nodeDirectory_injective.mpr ⟨halias, hshort⟩)

/-- Aliases that differ in case only share their directory where the case makes no difference. -/
example : caseless.path ["Left".toList] = caseless.path ["LEFT".toList] ∧
    exact.path ["Left".toList] ≠ exact.path ["LEFT".toList] := by
  decide

end Spelling

/-- A recording or an export that is started: of what kind, into which directory, for which device
under which alias, and whether its file opens. The directory is that of the recording batch, or that of
the exports of the second. -/
structure Start where
  kind : FileKind
  base : Path
  aliasName : Text
  uuid : Uuid
  opened : Bool

/-- How many of the starts before it are of the same kind and for the same device. -/
def Start.earlier (before : List Start) (s : Start) : Nat :=
  before.countP fun t => t.kind = s.kind ∧ t.uuid = s.uuid

/-- The starts whose files open, each with what was started before. -/
def openings : List Start → List Start → List (List Start × Start)
  | _, [] => []
  | before, s :: later =>
    (if s.opened then [(before, s)] else []) ++ openings (before ++ [s]) later

/-- Two starts of different devices that nothing in their paths tells apart. -/
structure Spelling.Clash (F : Spelling) (x y : List Start × Start) : Prop where
  devices : x.2.uuid ≠ y.2.uuid
  kind : x.2.kind = y.2.kind
  base : F.path x.2.base = F.path y.2.base
  aliasName : F.text (safeAlias x.2.aliasName) = F.text (safeAlias y.2.aliasName)
  uuid : shortUuid x.2.uuid = shortUuid y.2.uuid
  number : x.2.earlier x.1 = y.2.earlier y.1

/-- The name that the counts give to the file of a start. -/
def Start.file (s : Start) (number : Nat) : FileName :=
  { kind := s.kind, base := s.base, aliasName := s.aliasName, uuid := s.uuid, number }

/-- The file of a start, numbered by what was started before. -/
def fileOf (x : List Start × Start) : FileName := x.2.file (x.2.earlier x.1 + 1)

/-- The book behind a history of starts, each of which takes the next number of its device. -/
inductive Book.Starts (b : Book) : List Start → Book → Prop
  | nil : b.Starts [] b
  | snoc {starts : List Start} {b' : Book} (s : Start) (h : b.Starts starts b') :
      b.Starts (starts ++ [s]) (b'.start (s.file (b'.count s.kind s.uuid + 1)) s.opened)

/-- What leads from one book to another is a history of starts. -/
lemma Book.Leads.starts (h : b.Leads b') : ∃ starts, b.Starts starts b' := by
  induction h with
  | refl => exact ⟨[], .nil⟩
  | tail _ hstep ih =>
    obtain ⟨starts, hstarts⟩ := ih
    obtain ⟨f, opens, number, rfl⟩ := hstep
    let s : Start :=
      { kind := f.kind, base := f.base, aliasName := f.aliasName, uuid := f.uuid, opened := opens }
    have hfile : f = s.file f.number := rfl
    refine ⟨starts ++ [s], ?_⟩
    rw [hfile, number]
    exact .snoc s hstarts

/-- A number that is noted is read back, and the others are as they were. -/
lemma countOf_putCount (counts : List (Text × Nat)) (key key' : Text) (n : Nat) :
    AppController.countOf (AppController.putCount counts key n) key' =
      if key' = key then n else AppController.countOf counts key' := by
  unfold AppController.countOf
  split
  · rename_i heq
    rw [heq]
    exact congrArg (Option.getD · 0) (lookup_dictPut_self counts key n)
  · rename_i hne
    exact congrArg (Option.getD · 0) (lookup_dictPut_of_ne counts n hne)

/-- A start counts for its own device and kind. -/
lemma Book.count_start (b : Book) (f : FileName) (opens : Bool) (kind : FileKind) (uuid : Uuid) :
    (b.start f opens).count kind uuid =
      if kind = f.kind ∧ uuid = f.uuid then f.number else b.count kind uuid := by
  have htext : uuidText uuid = uuidText f.uuid ↔ uuid = f.uuid :=
    ⟨fun h => uuidText_injective h, congrArg uuidText⟩
  unfold Book.count Book.counts Book.start
  cases hkind : f.kind <;> cases kind <;> simp [countOf_putCount, htext]

/-- The count of a device is how often it was started for. -/
lemma Book.Starts.count {starts : List Start} (h : b.Starts starts b')
    (hnew : ∀ kind uuid, b.count kind uuid = 0) (s : Start) :
    b'.count s.kind s.uuid = s.earlier starts := by
  induction h with
  | nil => exact hnew s.kind s.uuid
  | snoc t hstarts ih =>
    unfold Start.earlier at ih ⊢
    rw [Book.count_start, List.countP_append, ← ih, List.countP_singleton]
    by_cases hsame : t.kind = s.kind ∧ t.uuid = s.uuid
    · rw [if_pos ⟨hsame.1.symm, hsame.2.symm⟩, if_pos (decide_eq_true hsame)]
      show Book.count _ t.kind t.uuid + 1 = _
      rw [hsame.1, hsame.2]
    · rw [if_neg fun h => hsame ⟨h.1.symm, h.2.symm⟩, if_neg (by simpa using hsame)]
      rfl

/-- What opens last comes last. -/
lemma openings_snoc (before starts : List Start) (s : Start) :
    openings before (starts ++ [s]) =
      openings before starts ++ if s.opened then [(before ++ starts, s)] else [] := by
  induction starts generalizing before with
  | nil =>
    rw [List.nil_append, openings, openings, openings, List.append_nil, List.append_nil,
      List.nil_append]
  | cons t starts ih =>
    rw [List.cons_append, openings, ih, openings, List.append_assoc, List.append_assoc]
    rfl

/-- What opened was started where its history ends. -/
lemma mem_openings {before starts : List Start} {x : List Start × Start}
    (h : x ∈ openings before starts) : ∃ after, before ++ starts = x.1 ++ x.2 :: after := by
  induction starts generalizing before with
  | nil => cases h
  | cons t starts ih =>
    rw [openings] at h
    cases List.mem_append.mp h with
    | inl hnow =>
      split at hnow
      · rw [List.mem_singleton.mp hnow]
        exact ⟨starts, rfl⟩
      · cases hnow
    | inr hlater =>
      obtain ⟨after, hafter⟩ := ih hlater
      exact ⟨after, by rw [← hafter, List.append_assoc, List.singleton_append]⟩

/-- The files of one device and kind are numbered upwards. -/
lemma openings_numbered (starts : List Start) :
    (openings [] starts).Pairwise fun x y =>
      x.2.kind = y.2.kind → x.2.uuid = y.2.uuid → x.2.earlier x.1 < y.2.earlier y.1 := by
  induction starts using List.reverseRecOn with
  | nil => exact .nil
  | append_singleton starts s ih =>
    rw [openings_snoc]
    split
    · refine List.pairwise_append.mpr
        ⟨ih, List.pairwise_singleton _ _, fun x hx y hy hkind huuid => ?_⟩
      rw [List.mem_singleton.mp hy] at hkind huuid ⊢
      -- the later of the two counts the earlier one
      obtain ⟨after, hafter⟩ := mem_openings hx
      unfold Start.earlier
      dsimp only at hkind huuid ⊢
      have hpos := List.countP_cons_of_pos (l := after)
        (p := fun t : Start => decide (t.kind = s.kind ∧ t.uuid = s.uuid)) (a := x.2)
        (decide_eq_true ⟨hkind, huuid⟩)
      rw [hafter, List.countP_append, hkind, huuid, hpos]
      omega
    · rw [List.append_nil]
      exact ih

/-- The paths of the files that opened, in the order of their recorders. -/
def Book.paths (b : Book) : List Path :=
  ((List.range b.nextRecorder).map fun id => (b.files id).1).filter (· ≠ [])

/-- The paths of the recordings and exports that were started. -/
def AppController.startedPaths (c : AppController) : List Path := c.book.paths

/-- The path of a file is not empty. -/
lemma FileName.path_ne_nil (f : FileName) : f.path ≠ [] :=
  List.append_ne_nil_of_right_ne_nil _ (List.cons_ne_nil _ _)

/-- A file that opens is the last of the paths, and the others keep theirs. -/
lemma Book.paths_start (b : Book) (f : FileName) (opens : Bool)
    (hfresh : (b.files b.nextRecorder).1 = []) :
    (b.start f opens).paths = b.paths ++ if opens then [f.path] else [] := by
  have hnext : (b.start f opens).nextRecorder = b.nextRecorder + 1 := rfl
  have hkept : ∀ id ∈ List.range b.nextRecorder, ((b.start f opens).files id).1 =
      (b.files id).1 := by
    intro id hid
    unfold Book.start
    cases opens with
    | true => exact congrArg Prod.fst (Function.update_of_ne (List.mem_range.mp hid).ne _ _)
    | false => rfl
  unfold Book.paths
  rw [hnext, List.range_succ, List.map_append, List.map_congr_left hkept, List.filter_append,
    List.map_singleton]
  congr 1
  cases opens with
  | true =>
    have hlast : ((b.start f true).files b.nextRecorder).1 = f.path := by
      show (Function.update b.files b.nextRecorder (f.path, some f.uuid) b.nextRecorder).1 = f.path
      rw [Function.update_self]
    rw [hlast]
    exact List.filter_cons_of_pos (decide_eq_true f.path_ne_nil)
  | false =>
    have hlast : ((b.start f false).files b.nextRecorder).1 = [] := hfresh
    rw [hlast]
    rfl

/-- The recorders have the files that were started. -/
lemma Book.Starts.paths {starts : List Start} (h : b.Starts starts b') (hnew : b.nextRecorder = 0)
    (hcounts : ∀ kind uuid, b.count kind uuid = 0) (hfree : ∀ id, (b.files id).1 = []) :
    b'.paths = (openings [] starts).map (fun x => (fileOf x).path) ∧
      ∀ id, b'.nextRecorder ≤ id → (b'.files id).1 = [] := by
  induction h with
  | nil =>
    refine ⟨?_, fun id _ => hfree id⟩
    rw [Book.paths, hnew]
    rfl
  | @snoc starts b' s hstarts ih =>
    obtain ⟨hpaths, hfresh⟩ := ih
    refine ⟨?_, fun id hid => ?_⟩
    · rw [Book.paths_start _ _ _ (hfresh _ le_rfl), hpaths, openings_snoc, List.map_append,
        hstarts.count hcounts]
      congr 1
      split <;> rfl
    · have hid : b'.nextRecorder + 1 ≤ id := hid
      unfold Book.start
      dsimp only
      split
      · rw [Function.update_of_ne (Nat.lt_of_succ_le hid).ne']
        exact hfresh id (Nat.le_of_succ_le hid)
      · exact hfresh id (Nat.le_of_succ_le hid)

/-- Paths are told apart exactly if no two starts of the history clash. -/
lemma startedPaths_apart (F : Spelling) {aliases : List (Text × Text)} {starts : List Start}
    {c : AppController} (h : (AppController.initial aliases).book.Starts starts c.book) :
    (c.startedPaths.map F.path).Nodup ↔
      (openings [] starts).Pairwise fun x y => ¬ F.Clash x y := by
  have hnumbered := openings_numbered starts
  have hpaths : c.startedPaths = (openings [] starts).map fun x => (fileOf x).path :=
    (h.paths rfl (fun kind uuid => by cases kind <;> rfl) fun _ => rfl).1
  rw [hpaths, List.map_map, List.Nodup, List.pairwise_map]
  constructor
  · intro h
    refine h.imp fun {x y} hne hclash => hne ?_
    exact Spelling.path_eq_iff.mpr ⟨hclash.kind, hclash.base, congrArg (· + 1) hclash.number,
      hclash.aliasName, hclash.uuid⟩
  · intro h
    refine (hnumbered.and h).imp fun {x y} hxy heq => ?_
    obtain ⟨hkind, hbase, hnumber, halias, hshort⟩ := Spelling.path_eq_iff.mp heq
    have hnumber : x.2.earlier x.1 = y.2.earlier y.1 := Nat.succ.inj hnumber
    by_cases huuid : x.2.uuid = y.2.uuid
    · exact absurd hnumber (hxy.1 hkind huuid).ne
    · exact hxy.2 ⟨huuid, hkind, hbase, halias, hshort, hnumber⟩

/-- In every run the recordings and exports that were started have paths that the file system tells
apart exactly if no two starts of its history clash. -/
theorem startedPaths_nodup_iff (F : Spelling) (crc32 : Bytes → UInt32) (aliases : List (Text × Text))
    (events : List Event) :
    (∃ starts, (AppController.initial aliases).book.Starts starts
        (AppController.run crc32 aliases events).book) ∧
      ∀ starts, (AppController.initial aliases).book.Starts starts
          (AppController.run crc32 aliases events).book →
        (((AppController.run crc32 aliases events).startedPaths.map F.path).Nodup ↔
          (openings [] starts).Pairwise fun x y => ¬ F.Clash x y) :=
  ⟨(run_book crc32 aliases events).starts, fun _ hstarts => startedPaths_apart F hstarts⟩

/-- The events by which two gateways, of devices whose UUIDs have the same first eight digits, are
recorded. -/
def Event.recordTwo : List Event :=
  [.operation {} (.startWifiServer "0.0.0.0:9000".toList)] ++ Event.gatewayReady 0 ++
    Event.gatewayReady 1 ++ Event.reply 0 "+UUID:00000000-0000-0000-0000-000000000001\r\n" ++
    Event.reply 1 "+UUID:00000000-0000-0000-0000-000000000002\r\n" ++
    [.publishSnapshots {}, .operation {} (.setRecording true none)]

/-- Both devices are given the same name by default, and their first segments the same path. -/
theorem startedPaths_nodup_two :
    ¬ ((AppController.run zlibCrc32 [] Event.recordTwo).startedPaths.map
      Spelling.exact.path).Nodup := by
  have hpaths : (AppController.run zlibCrc32 [] Event.recordTwo).startedPaths =
      List.replicate 2 ["recordings".toList, [], "Node-00000000-00000000".toList,
        "segment-001.sdf1".toList] := by
    decide +kernel
  rw [hpaths]
  decide

end SensorHost.Presentation
