import Mathlib.Data.List.DropRight
import SensorHost.Acquisition.Controller

/-!
# Control lines

Model of `write_control` of `CdcSerialTransport` and `AcceptedSocketTransport`: a queued command
loses the line ends behind it, is checked, and is written with CRLF behind it.

Neither layer looks for a line end inside a command, so an accepted command is written as one line
exactly if its stripped text has none (`singleLine_iff`).

`enqueue_command` strips the text and encodes it in ASCII; `enqueued` lists what it checks. The
transports strip line ends again, find none at the end of such a text, and add theirs
(`controlContent_eq`). The condition is on the text, and `setUuid_two_lines` is an input of the
application that violates it.
-/

namespace SensorHost.Transport
open SensorHost.Lib SensorHost.Acquisition

@[simp] def maximumControlBytes : Nat := 94
def maximumAsciiByte : UInt8 := 0x7F

/-- CR and LF. -/
def crlf : Bytes := [0x0D, 0x0A]

/-- A byte that `rstrip(b"\r\n")` removes. -/
def isLineByte (b : UInt8) : Bool := b == 0x0D || b == 0x0A

/-- What `write_control` raises: `ValueError` or `TransportError`. -/
inductive ControlError where
  | value (message : Text)
  | transport (message : Text)
  deriving DecidableEq

/-- The content of a command that passes the checks of `write_control`. -/
def controlContent (command : Bytes) : Except ControlError Bytes :=
  let content := command.rdropWhile isLineByte
  if content = [] ∨ content.length > maximumControlBytes then
    .error (.value "control command must contain 1..94 bytes".toList)
  else if 0 ∈ content ∨ content.any (· > maximumAsciiByte) then
    .error (.value "control command must contain ASCII without NUL".toList)
  else .ok content

/-- `CdcSerialTransport`; an open port is the list of what it was given to write. -/
structure CdcSerialTransport where
  serialPort : Option (List Bytes) := none
  deviceId : Text := []
  deriving DecidableEq

/-- `CdcSerialTransport.write_control`; `write` is what the port does with a line: it reports how
many bytes it wrote, or raises. -/
def CdcSerialTransport.writeControl (t : CdcSerialTransport) (write : Bytes → Except Text Nat)
    (command : Bytes) : CdcSerialTransport × Except ControlError Unit :=
  match controlContent command with
  | .error error => (t, .error error)
  | .ok content =>
    match t.serialPort with
    | none => (t, .error (.transport "CDC endpoint is not open".toList))
    | some written =>
      let line := content ++ crlf
      ({ t with serialPort := some (written ++ [line]) },
        match write line with
        | .error error => .error (.transport ("cannot write CDC endpoint ".toList ++ t.deviceId ++
            ": ".toList ++ error))
        | .ok n =>
          if n ≠ line.length then .error (.transport ("short CDC control write on ".toList ++
            t.deviceId ++ ": ".toList ++ renderNat n ++ "/".toList ++ renderNat line.length ++
            " bytes".toList))
          else .ok ())

/-- `AcceptedSocketTransport`; an open socket is the list of what it was given to send. -/
structure AcceptedSocketTransport where
  socket : Option (List Bytes) := none
  peer : Text := []
  deriving DecidableEq

/-- `AcceptedSocketTransport.write_control`; `sendall` is what the socket does with a line. -/
def AcceptedSocketTransport.writeControl (t : AcceptedSocketTransport)
    (sendall : Bytes → Except Text Unit) (command : Bytes) :
    AcceptedSocketTransport × Except ControlError Unit :=
  match controlContent command with
  | .error error => (t, .error error)
  | .ok content =>
    match t.socket with
    | none => (t, .error (.transport ("gateway ".toList ++ t.peer ++ " is closed".toList)))
    | some sent =>
      let line := content ++ crlf
      ({ t with socket := some (sent ++ [line]) },
        match sendall line with
        | .error error => .error (.transport ("cannot write gateway ".toList ++ t.peer ++
            ": ".toList ++ error))
        | .ok () => .ok ())

/-- `set_uuid`. -/
def setUuid (a : AcquisitionController) (value : Text) : Except Text AcquisitionController :=
  a.enqueueCommand ("AT+UUID=".toList ++ value)

/-- Bytes with one line end, at their end. -/
def SingleLine (line : Bytes) : Prop :=
  ∃ body, line = body ++ crlf ∧ ∀ b ∈ body, isLineByte b = false

/-- A line with its end is a single one if no other line ends in it. -/
lemma singleLine_append {body : Bytes} :
    SingleLine (body ++ crlf) ↔ ∀ b ∈ body, isLineByte b = false := by
  constructor
  · rintro ⟨body', h, hbody⟩
    rw [List.append_left_inj] at h
    rw [h]
    exact hbody
  · intro h
    exact ⟨body, rfl, h⟩

/-- The last element that stripping keeps is not one to strip. -/
lemma stripBy_getLast {α : Type} {p : α → Bool} {xs : List α} (h : stripBy p xs ≠ []) :
    p ((stripBy p xs).getLast h) = false := by
  have hne : (xs.dropWhile p).reverse.dropWhile p ≠ [] := by
    rwa [stripBy, ne_eq, List.reverse_eq_nil_iff] at h
  have hhead := List.head_dropWhile_not p hne
  simpa only [stripBy, List.getLast_reverse] using hhead

/-- ASCII encoding keeps the occurrences of a character. -/
lemma mem_encodeAscii {text : Text} {bs : Bytes} (h : encodeAscii text = some bs) (c : Char)
    (hc : c.toNat < 0x80) : UInt8.ofNat c.toNat ∈ bs ↔ c ∈ text := by
  unfold encodeAscii at h
  split at h
  · rename_i hall
    cases h
    rw [List.mem_map]
    constructor
    · rintro ⟨d, hd, heq⟩
      have hlt := of_decide_eq_true (List.all_eq_true.mp hall d hd)
      have hval := congrArg UInt8.toNat heq
      rw [UInt8.toNat_ofNat', UInt8.toNat_ofNat', Nat.mod_eq_of_lt (by omega),
        Nat.mod_eq_of_lt (by omega)] at hval
      rwa [← Char.toNat_inj.mp hval]
    · intro hmem
      exact ⟨c, hmem, rfl⟩
  · cases h

/-- What `enqueue_command` accepts and queues. -/
structure Enqueued (a : AcquisitionController) (command : Text) (a' : AcquisitionController)
    (encoded : Bytes) : Prop where
  ascii : encodeAscii (strip command) = some encoded
  commands : a'.commands = a.commands ++ [encoded]
  ne_nil : encoded ≠ []
  length_le : encoded.length ≤ maximumCommandBytes
  nonzero : 0 ∉ encoded

/-- What is queued is the text, stripped and encoded. -/
lemma enqueued {a a' : AcquisitionController} {command : Text}
    (h : a.enqueueCommand command = .ok a') : ∃ encoded, Enqueued a command a' encoded := by
  unfold AcquisitionController.enqueueCommand at h
  cases hencode : encodeAscii (strip command) with
  | none =>
    rw [hencode] at h
    cases h
  | some encoded =>
    rw [hencode] at h
    dsimp only at h
    split at h
    · cases h
    · rename_i hchecks
      obtain ⟨hne, hchecks⟩ := not_or.mp hchecks
      obtain ⟨hlength, hzero⟩ := not_or.mp hchecks
      cases h
      exact ⟨encoded, hencode, rfl, hne, not_lt.mp hlength, hzero⟩

namespace Enqueued

variable {a a' : AcquisitionController} {command : Text} {bs : Bytes}

/-- The bytes are the characters of the stripped text, all of them ASCII. -/
lemma text (h : Enqueued a command a' bs) :
    bs = (strip command).map (fun c => UInt8.ofNat c.toNat) ∧
      ∀ c ∈ strip command, c.toNat < 0x80 := by
  have hencode := h.ascii
  unfold encodeAscii at hencode
  split at hencode
  · rename_i hall
    cases hencode
    exact ⟨rfl, fun c hc => of_decide_eq_true (List.all_eq_true.mp hall c hc)⟩
  · cases hencode

/-- A queued command ends with a visible byte, so `write_control` takes nothing off it. -/
lemma rdropWhile_eq (h : Enqueued a command a' bs) : bs.rdropWhile isLineByte = bs := by
  obtain ⟨hbs, hascii⟩ := h.text
  have hne : strip command ≠ [] := by
    intro hnil
    rw [hnil] at hbs
    exact h.ne_nil hbs
  rw [List.rdropWhile_eq_self_iff]
  intro hbs'
  have hvisible : isSpaceChar ((strip command).getLast hne) = false := stripBy_getLast hne
  have hlt := hascii _ (List.getLast_mem hne)
  have hlast : bs.getLast hbs' = UInt8.ofNat ((strip command).getLast hne).toNat := by
    subst hbs
    exact List.getLast_map _
  rw [hlast]
  generalize (strip command).getLast hne = c at hvisible hlt
  intro hline
  have hcases : c.toNat = 0x0D ∨ c.toNat = 0x0A := by
    rw [isLineByte, Bool.or_eq_true, beq_iff_eq, beq_iff_eq] at hline
    refine hline.imp ?_ ?_ <;>
    · intro heq
      have hval := congrArg UInt8.toNat heq
      rwa [UInt8.toNat_ofNat', Nat.mod_eq_of_lt (by omega)] at hval
  unfold isSpaceChar at hvisible
  obtain hc | hc := hcases <;>
  · rw [hc] at hvisible
    cases hvisible

/-- A queued command passes the checks of `write_control` as it is. -/
lemma controlContent_eq (h : Enqueued a command a' bs) : controlContent bs = .ok bs := by
  obtain ⟨hbs, hascii⟩ := h.text
  have hany : ¬ bs.any (· > maximumAsciiByte) = true := by
    rw [List.any_eq_true]
    rintro ⟨b, hb, hgt⟩
    rw [hbs, List.mem_map] at hb
    obtain ⟨c, hc, rfl⟩ := hb
    have hlt := hascii c hc
    have hgt : 0x7F < (UInt8.ofNat c.toNat).toNat := UInt8.lt_iff_toNat_lt.mp (of_decide_eq_true hgt)
    rw [UInt8.toNat_ofNat', Nat.mod_eq_of_lt (by omega)] at hgt
    omega
  have hsize : ¬ (bs = [] ∨ bs.length > maximumControlBytes) :=
    not_or.mpr ⟨h.ne_nil, not_lt.mpr h.length_le⟩
  unfold controlContent
  dsimp only
  rw [h.rdropWhile_eq, if_neg hsize, if_neg (not_or.mpr ⟨h.nonzero, hany⟩)]

/-- The line of a queued command is a single one exactly if its text has no line end inside. -/
lemma singleLine_iff (h : Enqueued a command a' bs) :
    SingleLine (bs ++ crlf) ↔ '\r' ∉ strip command ∧ '\n' ∉ strip command := by
  have hcr : (0x0D : UInt8) ∈ bs ↔ '\r' ∈ strip command :=
    mem_encodeAscii h.ascii '\r' (by decide)
  have hlf : (0x0A : UInt8) ∈ bs ↔ '\n' ∈ strip command :=
    mem_encodeAscii h.ascii '\n' (by decide)
  rw [singleLine_append, ← hcr, ← hlf]
  constructor
  · intro hbody
    refine ⟨fun hmem => ?_, fun hmem => ?_⟩
    · cases hbody _ hmem
    · cases hbody _ hmem
  · rintro ⟨hcr, hlf⟩ b hb
    rw [isLineByte, Bool.or_eq_false_iff, beq_eq_false_iff_ne, beq_eq_false_iff_ne]
    exact ⟨ne_of_mem_of_not_mem hb hcr, ne_of_mem_of_not_mem hb hlf⟩

end Enqueued

/-- A command with its line end is written to the port. -/
lemma cdc_writeControl_line {t : CdcSerialTransport} {written : List Bytes} {command content : Bytes}
    (hport : t.serialPort = some written) (hcontent : controlContent command = .ok content)
    (write : Bytes → Except Text Nat) :
    (t.writeControl write command).1.serialPort = some (written ++ [content ++ crlf]) := by
  simp only [CdcSerialTransport.writeControl, hcontent, hport]

/-- A command with its line end is sent to the socket. -/
lemma socket_writeControl_line {t : AcceptedSocketTransport} {sent : List Bytes}
    {command content : Bytes} (hsocket : t.socket = some sent)
    (hcontent : controlContent command = .ok content) (sendall : Bytes → Except Text Unit) :
    (t.writeControl sendall command).1.socket = some (sent ++ [content ++ crlf]) := by
  simp only [AcceptedSocketTransport.writeControl, hcontent, hsocket]

/-- Either transport writes an accepted command as one line exactly if the stripped command has no
line end inside. -/
theorem command_line_iff {a a' : AcquisitionController} {command : Text}
    (h : a.enqueueCommand command = .ok a') :
    ∃ encoded, a'.commands = a.commands ++ [encoded] ∧
      (∀ (t : CdcSerialTransport) written write, t.serialPort = some written →
        ∃ line, (t.writeControl write encoded).1.serialPort = some (written ++ [line]) ∧
          (SingleLine line ↔ '\r' ∉ strip command ∧ '\n' ∉ strip command)) ∧
      ∀ (t : AcceptedSocketTransport) sent sendall, t.socket = some sent →
        ∃ line, (t.writeControl sendall encoded).1.socket = some (sent ++ [line]) ∧
          (SingleLine line ↔ '\r' ∉ strip command ∧ '\n' ∉ strip command) := by
  obtain ⟨encoded, henqueued⟩ := enqueued h
  refine ⟨encoded, henqueued.commands, ?_, ?_⟩
  · intro t written write hport
    exact ⟨encoded ++ crlf, cdc_writeControl_line hport henqueued.controlContent_eq write,
      henqueued.singleLine_iff⟩
  · intro t sent sendall hsocket
    exact ⟨encoded ++ crlf, socket_writeControl_line hsocket henqueued.controlContent_eq sendall,
      henqueued.singleLine_iff⟩

/-- A status request is one line. -/
theorem command_line_iff_status :
    ∃ encoded, ∀ (t : CdcSerialTransport) written write, t.serialPort = some written →
      ∃ line, (t.writeControl write encoded).1.serialPort = some (written ++ [line]) ∧
        SingleLine line := by
  have haccepted : ({} : AcquisitionController).enqueueCommand " AT+STATE?\r\n".toList =
      .ok { commands := [asciiBytes "AT+STATE?".toList] } := by rfl
  obtain ⟨encoded, -, hcdc, -⟩ := command_line_iff haccepted
  refine ⟨encoded, ?_⟩
  intro t written write hport
  obtain ⟨line, hline, hiff⟩ := hcdc t written write hport
  exact ⟨line, hline, hiff.mpr (by decide)⟩

/-- A UUID value with a line end inside is accepted, and both transports write its second command. -/
theorem setUuid_two_lines :
    ∃ a', setUuid {} "1\r\nAT+SDCLEAR=CONFIRM".toList = .ok a' ∧
      a'.commands = [asciiBytes "AT+UUID=1\r\nAT+SDCLEAR=CONFIRM".toList] ∧
      (∀ write, (({ serialPort := some [] } : CdcSerialTransport).writeControl write
        (asciiBytes "AT+UUID=1\r\nAT+SDCLEAR=CONFIRM".toList)).1.serialPort =
          some [asciiBytes "AT+UUID=1\r\nAT+SDCLEAR=CONFIRM\r\n".toList]) ∧
      (∀ sendall, (({ socket := some [] } : AcceptedSocketTransport).writeControl sendall
        (asciiBytes "AT+UUID=1\r\nAT+SDCLEAR=CONFIRM".toList)).1.socket =
          some [asciiBytes "AT+UUID=1\r\nAT+SDCLEAR=CONFIRM\r\n".toList]) ∧
      ¬ SingleLine (asciiBytes "AT+UUID=1\r\nAT+SDCLEAR=CONFIRM\r\n".toList) := by
  refine ⟨{ commands := [asciiBytes "AT+UUID=1\r\nAT+SDCLEAR=CONFIRM".toList] }, by rfl, rfl,
    fun write => by rfl, fun sendall => by rfl, ?_⟩
  have hsplit : asciiBytes "AT+UUID=1\r\nAT+SDCLEAR=CONFIRM\r\n".toList =
      asciiBytes "AT+UUID=1\r\nAT+SDCLEAR=CONFIRM".toList ++ crlf := by rfl
  rw [hsplit, singleLine_append]
  intro hbody
  cases hbody 0x0D (by decide)

end SensorHost.Transport
