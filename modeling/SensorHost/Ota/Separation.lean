import SensorHost.Ota.Demux

/-!
# Separation of frames and reply lines

The mixed stream of an OTA session is a concatenation of items (`MixedItem`): complete SDF1 frames
with any payload, and bare reply lines. The demultiplexer takes each item whole, and what it holds
between two reads is nothing or a proper prefix of the next item (`feed_items`), so it separates the
stream exactly, however it is cut (`feedAll_separates`).

An item carries its own condition: a frame has its magic and its length in range, a line is claimed
by the demultiplexer, is no longer than the limit and has no newline inside. The scanner takes it
whole (`MixedItem.item`), whatever the payload of the frame holds. A cut inside an item holds back a
proper prefix, which is never released early, since it may still be completed
(`StreamDemultiplexer.not_releases`).
-/

namespace SensorHost.Ota
open SensorHost.Lib SensorHost.Protocol

/-- A complete frame with the magic and size fields in range. -/
structure SdfFrame where
  bytes : Bytes
  magic : Sdf1.magic <+: bytes
  headerSize_range : Sdf1.headerSize ≤ leField bytes 8 2 ∧ leField bytes 8 2 ≤ Sdf1.maxHeaderSize
  payloadSize_le : leField bytes 10 2 ≤ Sdf1.maxPayloadSize
  length_eq : bytes.length = leField bytes 8 2 + leField bytes 10 2 + Sdf1.crcSize

/-- A bare reply line, without its newline. -/
structure ReplyLine (maxLine : Nat) where
  content : Bytes
  noNewline : newline ∉ content
  isReply : otaPrefix <+: content ∨ ∃ spaces, content = okLine ++ spaces ∧ spaces.all isSpaceByte
  length_le : content.length ≤ maxLine

/-- The line as it is sent. -/
def ReplyLine.bytes {maxLine : Nat} (l : ReplyLine maxLine) : Bytes := l.content ++ [newline]

/-- One item of a mixed stream. -/
inductive MixedItem (maxLine : Nat) where
  | frame (f : SdfFrame)
  | line (l : ReplyLine maxLine)

variable {maxLine : Nat}

/-- The item on the wire. -/
def MixedItem.bytes : MixedItem maxLine → Bytes
  | .frame f => f.bytes
  | .line l => l.bytes

/-- Where the item should go. -/
def MixedItem.part : MixedItem maxLine → Part
  | .frame f => .parser f.bytes
  | .line l => .line (stripBytes l.bytes)

/-- The stripped line, if the item is one. -/
def MixedItem.line? : MixedItem maxLine → Option Bytes
  | .frame _ => none
  | .line l => some (stripBytes l.bytes)

/-- The frame, if the item is one. -/
def MixedItem.frame? : MixedItem maxLine → Option Bytes
  | .frame f => some f.bytes
  | .line _ => none

/-- The bytes of a sequence of items. -/
def streamOf (items : List (MixedItem maxLine)) : Bytes := (items.map MixedItem.bytes).flatten

/-- The stripped reply lines of a sequence of items. -/
def linesOf (items : List (MixedItem maxLine)) : List Bytes := items.filterMap MixedItem.line?

/-- The concatenated frames of a sequence of items. -/
def framesOf (items : List (MixedItem maxLine)) : Bytes :=
  (items.filterMap MixedItem.frame?).flatten

/-- The lines of the items are the lines among their parts. -/
lemma otaLines_parts (items : List (MixedItem maxLine)) :
    otaLines (items.map MixedItem.part) = linesOf items := by
  induction items with
  | nil => rfl
  | cons it items ih =>
    cases it with
    | frame f => exact ih
    | line l => exact congrArg (stripBytes l.bytes :: ·) ih

/-- The frames of the items are what the parts have for the parser. -/
lemma parserBytes_parts (items : List (MixedItem maxLine)) :
    parserBytes (items.map MixedItem.part) = framesOf items := by
  induction items with
  | nil => rfl
  | cons it items ih =>
    cases it with
    | frame f => exact congrArg (f.bytes ++ ·) ih
    | line l => exact ih

/-- A frame is taken whole, for the parser. -/
lemma SdfFrame.item (f : SdfFrame) : mixed.Item f.bytes (.parser f.bytes) := by
  refine mixed_take.mpr ?_
  obtain ⟨hlo, hhi⟩ := f.headerSize_range
  have hlen := f.length_eq
  have hbig : Sdf1.headerSize + Sdf1.crcSize ≤ f.bytes.length := by omega
  have hpos : 0 < f.bytes.length := by
    simp only [Sdf1.headerSize, Sdf1.crcSize] at hbig
    omega
  have hlength : sdf1FrameLength f.bytes = some f.bytes.length := by
    unfold sdf1FrameLength
    have h12 : ¬ f.bytes.length < headerLengthBytes := by
      simp only [Sdf1.headerSize, Sdf1.crcSize, headerLengthBytes] at hbig ⊢
      omega
    rw [if_neg h12]
    dsimp only
    rw [if_neg (by omega), if_neg (not_lt.mpr f.payloadSize_le), ← hlen, if_neg (lt_irrefl _)]
  unfold pass
  rw [if_pos (startsSdf1Frame_iff.mpr f.magic), hlength]
  obtain ⟨n, hn⟩ : ∃ n, f.bytes.length = n + 1 := ⟨f.bytes.length - 1, by omega⟩
  have htake : f.bytes.take (n + 1) = f.bytes := by rw [← hn, List.take_length]
  simp only [hn, htake]

/-- A reply line begins with a visible core that no frame begins with. -/
lemma ReplyLine.core (l : ReplyLine maxLine) :
    ∃ core tail, l.content = core ++ tail ∧ (core = otaPrefix ∨ core = okLine) ∧
      (core = okLine → tail.all isSpaceByte) := by
  rcases l.isReply with ⟨tail, h⟩ | ⟨tail, h, hs⟩
  · exact ⟨otaPrefix, tail, h.symm, .inl rfl, fun h => absurd h (by decide)⟩
  · exact ⟨okLine, tail, h, .inr rfl, fun _ => hs⟩

/-- Stripping a reply line: its newline does not matter, and the claim test holds. -/
lemma ReplyLine.strip (l : ReplyLine maxLine) :
    stripBytes l.bytes = stripBytes l.content ∧
      (otaPrefix.isPrefixOf (stripBytes l.content) || stripBytes l.content == okLine) = true := by
  obtain ⟨core, tail, hc, hcore, hok⟩ := l.core
  have hne : core ≠ [] := by rcases hcore with rfl | rfl <;> decide
  have hhead : isSpaceByte (core.head hne) = false := by rcases hcore with rfl | rfl <;> rfl
  have hlast : isSpaceByte (core.getLast hne) = false := by rcases hcore with rfl | rfl <;> rfl
  have hcontent := stripBy_append hne hhead hlast tail
  have hbytes := stripBy_append hne hhead hlast (tail ++ [newline])
  constructor
  · rw [ReplyLine.bytes, hc, List.append_assoc, stripBytes, hbytes, stripBytes, hcontent]
    simp [show isSpaceByte newline = true from rfl]
  · rw [hc, stripBytes, hcontent]
    rcases hcore with rfl | rfl
    · simp [List.prefix_append]
    · have hspaces := stripBy_append_of_all hne hhead hlast (List.all_eq_true.mp (hok rfl))
      rw [hcontent] at hspaces
      simp [hspaces]

/-- No prefix of a reply line begins with the magic, whole or cut short. -/
lemma ReplyLine.not_frame (l : ReplyLine maxLine) {p : Bytes} (hp : p <+: l.bytes) (hne : p ≠ []) :
    isFramePrefix p = false := by
  obtain ⟨core, tail, hc, hcore, -⟩ := l.core
  obtain ⟨c, p, rfl⟩ := List.exists_cons_of_ne_nil hne
  obtain ⟨rest, hrest⟩ := hp
  have hhead : c = 0x2B ∨ c = 0x4F := by
    rw [ReplyLine.bytes, hc] at hrest
    rcases hcore with rfl | rfl
    · exact .inl (List.cons.inj hrest).1
    · exact .inr (List.cons.inj hrest).1
  rcases hhead with rfl | rfl <;> simp [isFramePrefix, startsSdf1Frame, Sdf1.magic, List.isPrefixOf]

/-- A reply line is taken whole, as a line. -/
lemma ReplyLine.item (l : ReplyLine maxLine) :
    mixed.Item l.bytes (.line (stripBytes l.bytes)) := by
  refine mixed_take.mpr ?_
  have hmagic : startsSdf1Frame l.bytes = false := by
    have h := l.not_frame List.prefix_rfl (by simp [ReplyLine.bytes])
    rw [isFramePrefix, Bool.or_eq_false_iff] at h
    exact h.1
  have heol : l.bytes.findIdx? (· == newline) = some l.content.length := by
    have hnone : l.content.findIdx? (· == newline) = none := by
      rw [List.findIdx?_eq_none_iff]
      intro b hb
      rw [beq_eq_false_iff_ne]
      rintro rfl
      exact l.noNewline hb
    rw [ReplyLine.bytes, List.findIdx?_append, hnone]
    simp
  have htake : l.bytes.take l.content.length = l.content := List.take_left
  have hlen : l.bytes.length = l.content.length + 1 := by simp [ReplyLine.bytes]
  obtain ⟨hstrip, hclaim⟩ := l.strip
  unfold pass
  rw [hmagic, heol, hlen, hstrip]
  simp only [Bool.false_eq_true, if_false, htake, hclaim, if_true]

/-- Each item is taken whole, as its part. -/
lemma MixedItem.item (it : MixedItem maxLine) : mixed.Item it.bytes it.part := by
  cases it with
  | frame f => exact f.item
  | line l => exact l.item

/-- A residue that is a proper prefix of an item, or empty, is not released. -/
lemma StreamDemultiplexer.not_releases {d : StreamDemultiplexer}
    {todo : List (MixedItem d.maxLine)}
    (hp : Partial d.pending (todo.map MixedItem.bytes)) : d.releases = false := by
  unfold releases
  rcases hp with hnil | ⟨it, rest, htodo, hpre, hlt⟩
  · rw [hnil]
    simp [isFramePrefix, maxFrameHold]
  · obtain ⟨i, is, rfl, rfl, rfl⟩ := List.map_eq_cons_iff.mp htodo
    by_cases hne : d.pending = []
    · rw [hne]
      simp [isFramePrefix, maxFrameHold]
    · cases i with
      | frame f =>
        have hlen := f.length_eq
        obtain ⟨-, hhi⟩ := f.headerSize_range
        have hpay := f.payloadSize_le
        -- a frame that is cut short still begins with the magic, or with a part of it
        have hframe : isFramePrefix d.pending = true := by
          by_cases h4 : d.pending.length < Sdf1.magic.length
          · have hm : d.pending <+: Sdf1.magic :=
              List.prefix_of_prefix_length_le hpre f.magic h4.le
            simp only [isFramePrefix, h4, List.isPrefixOf_iff_prefix.mpr hm, decide_true,
              Bool.and_self, Bool.or_true]
          · have hm : Sdf1.magic <+: d.pending :=
              List.prefix_of_prefix_length_le f.magic hpre (by omega)
            simp only [isFramePrefix, startsSdf1Frame_iff.mpr hm, Bool.true_or]
        have hshort : ¬ maxFrameHold < d.pending.length := by
          simp only [MixedItem.bytes] at hlt
          simp only [maxFrameHold]
          omega
        simp [hframe, hshort]
      | line l =>
        -- a line that is cut short is shorter than the bound
        have hlen : d.pending.length ≤ d.maxLine := by
          have := l.length_le
          simp only [MixedItem.bytes, ReplyLine.bytes, List.length_append,
            List.length_singleton] at hlt
          omega
        simp [l.not_frame hpre hne, hlen]

/-- One read that completes the items `done` and ends inside the next item. -/
lemma StreamDemultiplexer.feed_of_cut (d : StreamDemultiplexer)
    {done rest : List (MixedItem d.maxLine)} {chunk p : Bytes}
    (hcut : d.pending ++ chunk = streamOf done ++ p) (hp : Partial p (rest.map MixedItem.bytes)) :
    d.feed chunk = ({ d with pending := p }, linesOf done, framesOf done) := by
  have hwait : mixed.look p = .wait := by
    rcases hp with rfl | ⟨it, is, hrest, hpre, hlt⟩
    · rfl
    · obtain ⟨i, -, -, rfl, -⟩ := List.map_eq_cons_iff.mp hrest
      exact i.item.look_prefix hpre hlt
  have hscan : mixed.scan (d.pending ++ chunk) = (done.map fun i => (i.bytes, i.part), p) := by
    rw [hcut]
    exact mixed.scan_items MixedItem.bytes MixedItem.part done (fun i _ => i.item) hwait
  have hdrain : drain ((d.pending ++ chunk).length + 1) (d.pending ++ chunk) =
      (done.map MixedItem.part, p) := by
    rw [drain_eq _ _ (Nat.lt_succ_self _), hscan, List.map_map]
    rfl
  have hkeep : ({ d with pending := p } : StreamDemultiplexer).releases = false :=
    not_releases (d := { d with pending := p }) hp
  simp only [feed, hdrain, hkeep, otaLines_parts, parserBytes_parts]
  rfl

/-- One read of a mixed stream: the items it completes come out, and a proper prefix of the next
item is held. -/
theorem StreamDemultiplexer.feed_items (d : StreamDemultiplexer)
    (todo : List (MixedItem d.maxLine)) (chunk later : Bytes)
    (h : d.pending ++ chunk ++ later = streamOf todo) :
    ∃ done rest p, todo = done ++ rest ∧
      d.feed chunk = ({ d with pending := p }, linesOf done, framesOf done) ∧
      Partial p (rest.map MixedItem.bytes) ∧ p ++ later = streamOf rest := by
  obtain ⟨done', rest', p, hsplit, hcut, hlater, hp⟩ := cut_flatten _ h
  obtain ⟨done, rest, rfl, rfl, rfl⟩ := List.map_eq_append_iff.mp hsplit
  exact ⟨done, rest, p, rfl, d.feed_of_cut hcut hp, hp, hlater⟩

/-- The whole stream, from any point inside an item. -/
lemma StreamDemultiplexer.feedAll_items (d : StreamDemultiplexer)
    (todo : List (MixedItem d.maxLine)) (hp : Partial d.pending (todo.map MixedItem.bytes))
    (chunks : List Bytes) (h : d.pending ++ chunks.flatten = streamOf todo) :
    d.feedAll chunks = ({ d with pending := [] }, linesOf todo, framesOf todo) := by
  induction chunks generalizing d with
  | nil =>
    rw [List.flatten_nil, List.append_nil] at h
    have hnil : todo = [] := by
      cases todo with
      | nil => rfl
      | cons it rest =>
        have hpos := List.length_pos_iff.mpr it.item.ne_nil
        have hlen := congrArg List.length h
        simp only [streamOf, List.map_cons, List.flatten_cons, List.length_append] at hlen
        rcases hp with hp | ⟨b, bs, hb, -, hlt⟩
        · rw [hp] at hlen
          simp only [List.length_nil] at hlen
          omega
        · obtain ⟨rfl, -⟩ := List.cons.inj hb
          omega
    subst hnil
    have hpending : d.pending = [] := h
    have hd : ({ d with pending := [] } : StreamDemultiplexer) = d := by rw [← hpending]
    simp [feedAll, hd, linesOf, framesOf]
  | cons chunk chunks ih =>
    rw [List.flatten_cons, ← List.append_assoc] at h
    obtain ⟨done, rest, p, rfl, hfeed, hp', hlater⟩ := d.feed_items todo chunk _ h
    have hrest := ih { d with pending := p } rest hp' hlater
    simp only [feedAll, hfeed, hrest, linesOf, framesOf, List.filterMap_append,
      List.flatten_append]

/-- Separation: over any mixed stream and any chunking, a fresh demultiplexer returns exactly the
stripped reply lines and exactly the concatenated frames, and holds nothing at the end. -/
theorem feedAll_separates (d : StreamDemultiplexer) (fresh : d.pending = [])
    (items : List (MixedItem d.maxLine)) (chunks : List Bytes)
    (h : chunks.flatten = streamOf items) :
    d.feedAll chunks = (d, linesOf items, framesOf items) := by
  have hrun := d.feedAll_items items (.inl fresh) chunks (by rw [fresh, List.nil_append, h])
  rw [hrun, ← fresh]

/-- A CLI frame whose payload is `OK` and a newline. -/
def okFrame : SdfFrame where
  bytes := Sdf1.magic ++ [1, 4, 0, 0, 28, 0, 3, 0] ++ List.replicate 16 0 ++ okLine ++ [newline] ++
    List.replicate 4 0
  magic := by decide
  headerSize_range := by decide
  payloadSize_le := by decide
  length_eq := by decide

/-- A bare `OK` line. -/
def okReply : ReplyLine defaultMaxLine where
  content := okLine ++ [0x0D]
  noNewline := by decide
  isReply := .inr ⟨[0x0D], rfl, by decide⟩
  length_le := by decide

/-- The frame cut inside its payload, and the line inside its `OK`. -/
theorem feedAll_separates_okFrame :
    StreamDemultiplexer.feedAll {}
        [okFrame.bytes.take 29, okFrame.bytes.drop 29 ++ [0x4F], [0x4B, 0x0D, newline]] =
      ({}, [okLine], okFrame.bytes) :=
  feedAll_separates {} rfl [.frame okFrame, .line okReply] _ rfl

end SensorHost.Ota
