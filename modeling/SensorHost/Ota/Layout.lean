import SensorHost.Ota.Package

/-!
# The layout of a package

The validator and the packer of `ota/package.py` agree: a package is valid exactly if it is a packed
manifest block with its image behind it, and the manifest that is read holds the packed values.

`Packable` lists the arguments that the packer takes; behind it the manifest is a concatenation of
fields at fixed offsets (`manifestBody_numbers`). `unpack_manifestBody` reads them back, and
`Valid.repacked` goes the other way: the checks of the validator leave no byte of the block open but
those that the packer writes the same.
-/

namespace SensorHost.Ota
open SensorHost.Lib

variable {crc32 : Bytes → UInt32}

/-- The arguments that `packManifest` accepts: the image, both versions, the generation, the state
and the package ID. -/
structure Packable (image : Bytes) (app minimum generation state : Nat) (packageId : Bytes) :
    Prop where
  image_ge : minAppImageSize ≤ image.length
  image_le : image.length ≤ appFlashSize
  app_le : app ≤ 0xFFFFFFFF
  minimum_le : minimum ≤ 0xFFFFFFFF
  generation_le : generation ≤ 0xFFFFFFFF
  state_le : state ≤ stateApplied
  packageId_length : packageId.length = packageIdSize

/-- A version in 32 bits is taken as it is. -/
lemma versionValue_int {v : Nat} (h : v ≤ 0xFFFFFFFF) : versionValue (.int v) = .ok v := by
  have hcheck : (decide ((0 : Int) ≤ v) && decide ((v : Int) ≤ 0xFFFFFFFF)) = true := by
    rw [Bool.and_eq_true]
    exact ⟨decide_eq_true (Int.natCast_nonneg v), decide_eq_true (by omega)⟩
  simp only [versionValue, requirePackage, hcheck]
  rfl

/-- A version that is taken is in 32 bits. -/
lemma versionValue_int_ok {v : Nat} {value : Nat} (h : versionValue (.int v) = .ok value) :
    v ≤ 0xFFFFFFFF ∧ value = v := by
  obtain ⟨hcheck, h⟩ := requirePackage_ok h
  rw [Bool.and_eq_true] at hcheck
  have hle := of_decide_eq_true hcheck.2
  cases h
  exact ⟨by omega, Int.toNat_natCast v⟩

/-- What can be packed is packed as the body of the manifest and its checksum. -/
lemma packManifest_eq {image : Bytes} {app minimum generation state : Nat} {packageId : Bytes}
    (h : Packable image app minimum generation state packageId) :
    packManifest crc32 image (.int app) (.int minimum) generation state packageId =
      .ok (manifestBody image app minimum generation state (crc32 image).toNat packageId ++
        leBytes 4 (crc32 (manifestBody image app minimum generation state (crc32 image).toNat
          packageId)).toNat) := by
  have hgeneration : (decide ((0 : Int) ≤ generation) && decide ((generation : Int) ≤ 0xFFFFFFFF)) =
      true := by
    have hle := h.generation_le
    rw [Bool.and_eq_true]
    exact ⟨decide_eq_true (Int.natCast_nonneg generation), decide_eq_true (by omega)⟩
  have hstate : (decide ((statePackage : Int) ≤ state) && decide ((state : Int) ≤ stateApplied)) =
      true := by
    have hle := h.state_le
    rw [Bool.and_eq_true]
    exact ⟨decide_eq_true (Int.natCast_nonneg state), decide_eq_true (by exact_mod_cast hle)⟩
  unfold packManifest
  rw [decide_eq_true h.image_ge, decide_eq_true h.image_le, hgeneration, hstate,
    decide_eq_true h.packageId_length, versionValue_int h.app_le, versionValue_int h.minimum_le,
    Int.toNat_natCast, Int.toNat_natCast]
  rfl

/-- What is packed could be. -/
lemma packManifest_ok {image : Bytes} {app minimum generation state : Nat} {packageId block : Bytes}
    (h : packManifest crc32 image (.int app) (.int minimum) generation state packageId =
      .ok block) : Packable image app minimum generation state packageId := by
  obtain ⟨hge, h⟩ := requirePackage_ok h
  obtain ⟨hle, h⟩ := requirePackage_ok h
  obtain ⟨hgeneration, h⟩ := requirePackage_ok h
  obtain ⟨hstate, h⟩ := requirePackage_ok h
  obtain ⟨hid, h⟩ := requirePackage_ok h
  rw [Bool.and_eq_true] at hgeneration hstate
  have hgeneration := of_decide_eq_true hgeneration.2
  have hstate := of_decide_eq_true hstate.2
  cases hminimum : versionValue (.int minimum) with
  | error e =>
    rw [hminimum] at h
    cases h
  | ok m =>
    rw [hminimum] at h
    cases happ : versionValue (.int app) with
    | error e =>
      rw [happ] at h
      cases h
    | ok a =>
      exact ⟨of_decide_eq_true hge, of_decide_eq_true hle, (versionValue_int_ok happ).1,
        (versionValue_int_ok hminimum).1, by omega, by exact_mod_cast hstate,
        of_decide_eq_true hid⟩

/-- The manifest of a packed block. -/
def packedManifest (image : Bytes) (app minimum generation state imageCrc32 : Nat)
    (packageId : Bytes) : Manifest :=
  { generation
    state
    stateName := SensorHost.Ota.stateName state
    targetId
    deviceId := mcuDeviceId
    minimumBootloaderVersion := minimum
    appVersion := app
    appAddress := appFlashStart
    imageSize := image.length
    imageCrc32
    protocolVersion
    flags := 0
    packageId }

/-- The target has sixteen bytes. -/
lemma length_targetId : targetId.length = 16 := by rfl

/-- The body of the manifest ends where its checksum stands. -/
lemma length_manifestBody {image : Bytes} {app minimum generation state imageCrc32 : Nat}
    {packageId : Bytes} (h : packageId.length = packageIdSize) :
    (manifestBody image app minimum generation state imageCrc32 packageId).length =
      manifestCrcOffset := by
  simp only [manifestBody, List.length_append, length_leBytes, List.length_replicate, h,
    length_targetId]
  rfl

/-- The numbers of a packed block, whatever follows its body. -/
lemma manifestBody_numbers (image : Bytes) (app minimum generation state imageCrc32 : Nat)
    (packageId post : Bytes) :
    let block := manifestBody image app minimum generation state imageCrc32 packageId ++ post
    leField block 4 2 = manifestFormatVersion ∧ leField block 6 2 = manifestHeaderSize ∧
      leField block 8 4 = generation % 256 ^ 4 ∧ leField block 12 4 = state % 256 ^ 4 ∧
      leField block 32 4 = mcuDeviceId ∧ leField block 36 4 = minimum % 256 ^ 4 ∧
      leField block 40 4 = app % 256 ^ 4 ∧ leField block 44 4 = appFlashStart ∧
      leField block 48 4 = image.length % 256 ^ 4 ∧ leField block 52 4 = imageCrc32 % 256 ^ 4 ∧
      leField block 56 2 = protocolVersion ∧ leField block 58 2 = 0 := by
  intro block
  have hblock : block = manifestMagic ++ (leBytes 2 manifestFormatVersion ++
      (leBytes 2 manifestHeaderSize ++ (leBytes 4 generation ++ (leBytes 4 state ++
      (targetId ++ (leBytes 4 mcuDeviceId ++ (leBytes 4 minimum ++ (leBytes 4 app ++
      (leBytes 4 appFlashStart ++ (leBytes 4 image.length ++ (leBytes 4 imageCrc32 ++
      (leBytes 2 protocolVersion ++ (leBytes 2 0 ++ (packageId ++
      (List.replicate (manifestCrcOffset - manifestHeaderReservedOffset) 0 ++
        post))))))))))))))) := by
    simp only [block, manifestBody, List.append_assoc]
  have hmagic : manifestMagic.length = 4 := rfl
  have htarget : targetId.length = 16 := length_targetId
  rw [hblock]
  -- each field is read behind what stands before it
  simp (disch := simp [hmagic, htarget]) only [leField_append_ge, length_leBytes, hmagic, htarget,
    Nat.reduceSub, leField_leBytes]
  exact ⟨rfl, rfl, trivial, trivial, rfl, trivial, trivial, rfl, trivial, trivial, rfl, rfl⟩

/-- Reading back a packed block, whatever follows its body. -/
lemma unpack_manifestBody {image : Bytes} {app minimum generation state imageCrc32 : Nat}
    {packageId : Bytes} (h : Packable image app minimum generation state packageId)
    (hcrc : imageCrc32 < 2 ^ 32) (post : Bytes) :
    Manifest.unpack (manifestBody image app minimum generation state imageCrc32 packageId ++ post) =
      packedManifest image app minimum generation state imageCrc32 packageId := by
  obtain ⟨-, -, hgeneration, hstate, hdevice, hminimum, happ, haddress, hsize, hcrc', hprotocol,
    hflags⟩ := manifestBody_numbers image app minimum generation state imageCrc32 packageId post
  have happ' := h.app_le
  have hminimum' := h.minimum_le
  have hgeneration' := h.generation_le
  have hstate' := h.state_le
  have himage := h.image_le
  simp only [stateApplied, appFlashSize, appFlashStart] at hstate' himage
  rw [Nat.mod_eq_of_lt (by omega)] at hgeneration hstate hminimum happ hsize hcrc'
  -- the two fields that are no numbers are cut out
  have htarget : ((manifestBody image app minimum generation state imageCrc32 packageId ++
      post).take 32).drop 16 = targetId := by
    have hsplit := drop_take_append
      (manifestMagic ++ leBytes 2 manifestFormatVersion ++ leBytes 2 manifestHeaderSize ++
        leBytes 4 generation ++ leBytes 4 state) targetId
      (leBytes 4 mcuDeviceId ++ leBytes 4 minimum ++ leBytes 4 app ++ leBytes 4 appFlashStart ++
        leBytes 4 image.length ++ leBytes 4 imageCrc32 ++ leBytes 2 protocolVersion ++ leBytes 2 0 ++
        packageId ++ List.replicate (manifestCrcOffset - manifestHeaderReservedOffset) 0 ++ post)
      (show _ = 16 by simp [manifestMagic]) (show _ = 32 by simp [manifestMagic, length_targetId])
    simpa only [manifestBody, List.append_assoc] using hsplit
  have hpackage : ((manifestBody image app minimum generation state imageCrc32 packageId ++
      post).take 72).drop 60 = packageId := by
    have hid := h.packageId_length
    have hsplit := drop_take_append
      (manifestMagic ++ leBytes 2 manifestFormatVersion ++ leBytes 2 manifestHeaderSize ++
        leBytes 4 generation ++ leBytes 4 state ++ targetId ++ leBytes 4 mcuDeviceId ++
        leBytes 4 minimum ++ leBytes 4 app ++ leBytes 4 appFlashStart ++ leBytes 4 image.length ++
        leBytes 4 imageCrc32 ++ leBytes 2 protocolVersion ++ leBytes 2 0) packageId
      (List.replicate (manifestCrcOffset - manifestHeaderReservedOffset) 0 ++ post)
      (show _ = 60 by simp [manifestMagic, length_targetId])
      (show _ = 72 by simp [manifestMagic, length_targetId, hid])
    simpa only [manifestBody, List.append_assoc] using hsplit
  rw [Manifest.unpack, hgeneration, hstate, htarget, hdevice, hminimum, happ, haddress, hsize,
    hcrc', hprotocol, hflags, hpackage, packedManifest]

/-- A checked block up to its CRC is the packing of its own fields. -/
lemma Checked.take_eq {block : Bytes} (h : Checked crc32 block) {image : Bytes}
    (himage : image.length = (Manifest.unpack block).imageSize) :
    block.take manifestCrcOffset =
      manifestBody image (Manifest.unpack block).appVersion
        (Manifest.unpack block).minimumBootloaderVersion (Manifest.unpack block).generation
        (Manifest.unpack block).state (Manifest.unpack block).imageCrc32
        (Manifest.unpack block).packageId := by
  have hlength := h.length
  simp only [manifestBlockSize] at hlength
  have hfield (offset width : Nat) (hle : offset + width ≤ 512) :
      block.take (offset + width) = block.take offset ++
        leBytes width (leField block offset width) :=
    take_add_field (by omega)
  have hreserved : (block.take manifestCrcOffset).drop manifestHeaderReservedOffset =
      List.replicate (manifestCrcOffset - manifestHeaderReservedOffset) 0 := by
    rw [List.eq_replicate_iff, List.length_drop, List.length_take, hlength]
    refine ⟨rfl, ?_⟩
    intro b hb
    exact eq_of_beq (List.all_eq_true.mp h.reserved b hb)
  have htarget : (block.take 32).drop 16 = targetId := h.target
  have hdevice : leField block 32 4 = mcuDeviceId := h.device
  have haddress : leField block 44 4 = appFlashStart := h.address
  have hprotocol : leField block 56 2 = protocolVersion := h.protocol
  have hflags : leField block 58 2 = 0 := h.flags
  -- the reserved bytes, the package ID and the numbers between it and the target ID
  have htail := take_add_slice block manifestHeaderReservedOffset
    (manifestCrcOffset - manifestHeaderReservedOffset)
  have hid := take_add_slice block 60 12
  have hnumbers : block.take 60 = block.take 32 ++ leBytes 4 mcuDeviceId ++
      leBytes 4 (leField block 36 4) ++ leBytes 4 (leField block 40 4) ++ leBytes 4 appFlashStart ++
        leBytes 4 image.length ++ leBytes 4 (leField block 52 4) ++ leBytes 2 protocolVersion ++
          leBytes 2 0 := by
    rw [hfield 58 2 (by omega), hfield 56 2 (by omega), hfield 52 4 (by omega),
      hfield 48 4 (by omega), hfield 44 4 (by omega), hfield 40 4 (by omega),
      hfield 36 4 (by omega), hfield 32 4 (by omega), hdevice, haddress, hprotocol, hflags, himage]
    rfl
  -- the target ID and the numbers in front of it
  have hslice := take_add_slice block 16 16
  have hhead : block.take 16 = manifestMagic ++ leBytes 2 manifestFormatVersion ++
      leBytes 2 manifestHeaderSize ++ leBytes 4 (leField block 8 4) ++
        leBytes 4 (leField block 12 4) := by
    rw [hfield 12 4 (by omega), hfield 8 4 (by omega), hfield 6 2 (by omega),
      hfield 4 2 (by omega), h.magic, h.format, h.header]
  rw [show 16 + 16 = 32 from rfl, htarget, hhead] at hslice
  rw [show 60 + 12 = manifestHeaderReservedOffset from rfl, hnumbers, hslice] at hid
  rw [show manifestHeaderReservedOffset + (manifestCrcOffset - manifestHeaderReservedOffset) =
    manifestCrcOffset from rfl, hreserved, hid] at htail
  rw [htail]
  rfl

/-- A valid package can be packed again from its manifest. -/
lemma Valid.packable {package : Bytes} (h : Valid crc32 package) :
    Packable (package.drop manifestBlockSize)
      (Manifest.unpack (package.take manifestBlockSize)).appVersion
      (Manifest.unpack (package.take manifestBlockSize)).minimumBootloaderVersion
      (Manifest.unpack (package.take manifestBlockSize)).generation statePackage
      (Manifest.unpack (package.take manifestBlockSize)).packageId := by
  have hlength := h.block.length
  simp only [manifestBlockSize] at hlength
  have hfield (offset : Nat) (hle : offset + 4 ≤ 512) :
      leField (package.take manifestBlockSize) offset 4 ≤ 0xFFFFFFFF := by
    have hlt := leNat_lt (((package.take manifestBlockSize).drop offset).take 4)
    rw [List.length_take, List.length_drop, manifestBlockSize, hlength,
      min_eq_left (by omega)] at hlt
    exact Nat.le_pred_of_lt hlt
  have hid : (Manifest.unpack (package.take manifestBlockSize)).packageId.length =
      packageIdSize := by
    change (((package.take manifestBlockSize).take 72).drop 60).length = packageIdSize
    rw [List.length_drop, List.length_take, manifestBlockSize, hlength]
    rfl
  refine ⟨?_, ?_, hfield 40 (by omega), hfield 36 (by omega), hfield 8 (by omega),
    Nat.zero_le _, hid⟩
  · rw [h.size]
    exact h.block.size_ge
  · rw [h.size]
    exact h.block.size_le

/-- Packing the manifest of a valid package again gives back its block. -/
lemma Valid.repacked {package : Bytes} (h : Valid crc32 package) :
    packManifest crc32 (package.drop manifestBlockSize)
        (.int (Manifest.unpack (package.take manifestBlockSize)).appVersion)
        (.int (Manifest.unpack (package.take manifestBlockSize)).minimumBootloaderVersion)
        (Manifest.unpack (package.take manifestBlockSize)).generation statePackage
        (Manifest.unpack (package.take manifestBlockSize)).packageId =
      .ok (package.take manifestBlockSize) := by
  have hlength := h.block.length
  simp only [manifestBlockSize] at hlength
  have hbody := h.block.take_eq h.size
  rw [h.state, ← h.crc] at hbody
  have hblock : (package.take manifestBlockSize).take (manifestCrcOffset + 4) =
      (package.take manifestBlockSize).take manifestCrcOffset ++
        leBytes 4 (leField (package.take manifestBlockSize) manifestCrcOffset 4) :=
    take_add_field hlength.ge
  have hfull : (package.take manifestBlockSize).take (manifestCrcOffset + 4) =
      package.take manifestBlockSize := List.take_of_length_le hlength.le
  rw [h.block.crc, hfull, hbody] at hblock
  rw [packManifest_eq h.packable]
  exact congrArg Except.ok hblock.symm

/-- A packed block with its image behind it is a valid package. -/
lemma packManifest_valid {image : Bytes} {app minimum generation : Nat} {packageId block : Bytes}
    (h : packManifest crc32 image (.int app) (.int minimum) generation statePackage packageId =
      .ok block) :
    Valid crc32 (block ++ image) ∧ Manifest.unpack ((block ++ image).take manifestBlockSize) =
      packedManifest image app minimum generation statePackage (crc32 image).toNat packageId := by
  have hpackable := packManifest_ok h
  rw [packManifest_eq hpackable] at h
  cases h
  generalize hbody : manifestBody image app minimum generation statePackage (crc32 image).toNat
    packageId = body
  have hlength : body.length = manifestCrcOffset := by
    rw [← hbody]
    exact length_manifestBody hpackable.packageId_length
  have hblock : (body ++ leBytes 4 (crc32 body).toNat).length = manifestBlockSize := by
    rw [List.length_append, hlength, length_leBytes]
    rfl
  have htake : (body ++ leBytes 4 (crc32 body).toNat ++ image).take manifestBlockSize =
      body ++ leBytes 4 (crc32 body).toNat := List.take_left' hblock
  have hdrop : (body ++ leBytes 4 (crc32 body).toNat ++ image).drop manifestBlockSize = image :=
    List.drop_left' hblock
  -- the block is the body and its checksum, so every field is read in the body
  have hcut : (body ++ leBytes 4 (crc32 body).toNat).take manifestCrcOffset = body :=
    List.take_left' hlength
  have hunpack : Manifest.unpack (body ++ leBytes 4 (crc32 body).toNat) =
      packedManifest image app minimum generation statePackage (crc32 image).toNat packageId := by
    rw [← hbody]
    exact unpack_manifestBody hpackable (crc32 image).toNat_lt _
  obtain ⟨hformat, hheader, -⟩ := manifestBody_numbers image app minimum generation statePackage
    (crc32 image).toNat packageId (leBytes 4 (crc32 body).toNat)
  rw [hbody] at hformat hheader
  have hmagic : (body ++ leBytes 4 (crc32 body).toNat).take 4 = manifestMagic := by
    rw [← hbody]
    rfl
  have hcrc : leField (body ++ leBytes 4 (crc32 body).toNat) manifestCrcOffset 4 =
      (crc32 body).toNat := by
    have hskip := leField_append_right hlength (leBytes 4 (crc32 body).toNat ++ []) 0 4
    rw [leField_leBytes, List.append_nil, Nat.add_zero] at hskip
    rw [hskip]
    exact Nat.mod_eq_of_lt (crc32 body).toNat_lt
  have hreserved : body.drop manifestHeaderReservedOffset =
      List.replicate (manifestCrcOffset - manifestHeaderReservedOffset) 0 := by
    rw [← hbody]
    apply List.drop_left'
    simp [manifestMagic, length_targetId, hpackable.packageId_length]
  refine ⟨⟨?_, ?_, ?_, ?_, ?_⟩, ?_⟩
  · rw [List.length_append, hblock]
    exact Nat.le_add_right _ _
  · rw [htake]
    refine ⟨hblock, hmagic, hformat, hheader, ?_, ?_, ?_, ?_, ?_, ?_, ?_, ?_, ?_, ?_⟩
    · rw [hcut, hcrc]
    · rw [hcut, hreserved, List.all_replicate]
      rfl
    all_goals rw [hunpack]
    · rfl
    · rfl
    · rfl
    · exact hpackable.image_ge
    · exact hpackable.image_le
    · rfl
    · rfl
    · exact Nat.zero_le _
  · rw [htake, hunpack]
    rfl
  · rw [htake, hdrop, hunpack]
    rfl
  · rw [htake, hdrop, hunpack]
    rfl
  · rw [htake, hunpack]

/-- The package format: the valid packages are the packed manifest blocks with their image behind
them, and packing the values of the manifest again gives back the package. -/
theorem package_format (crc32 : Bytes → UInt32) (package : Bytes) :
    ((∃ manifest, validatePackage crc32 package = .ok manifest) ↔
      ∃ (image : Bytes) (app minimum generation : UInt32) (packageId block : Bytes),
        8 ≤ image.length ∧ image.length ≤ 0x50000 ∧ packageId.length = 12 ∧
          packManifest crc32 image (.int app.toNat) (.int minimum.toNat) generation.toNat
            statePackage packageId = .ok block ∧ package = block ++ image) ∧
      (∀ manifest (image : Bytes) (app minimum generation : UInt32) (packageId block : Bytes),
        validatePackage crc32 package = .ok manifest →
          packManifest crc32 image (.int app.toNat) (.int minimum.toNat) generation.toNat
            statePackage packageId = .ok block → package = block ++ image →
          manifest = packedManifest image app.toNat minimum.toNat generation.toNat statePackage
            (crc32 image).toNat packageId) ∧
      ∀ manifest, validatePackage crc32 package = .ok manifest →
        packManifest crc32 (package.drop manifestBlockSize) (.int manifest.appVersion)
          (.int manifest.minimumBootloaderVersion) manifest.generation statePackage
          manifest.packageId = .ok (package.take manifestBlockSize) := by
  refine ⟨⟨?_, ?_⟩, ?_, ?_⟩
  · rintro ⟨manifest, h⟩
    -- what was read fits the fields that it was read from
    obtain ⟨hvalid, rfl⟩ := validatePackage_ok h
    have hpackable := hvalid.packable
    have hu32 {v : Nat} (hv : v ≤ 0xFFFFFFFF) : (UInt32.ofNat v).toNat = v :=
      UInt32.toNat_ofNat_of_lt' (Nat.lt_succ_of_le hv)
    refine ⟨package.drop manifestBlockSize,
      UInt32.ofNat (Manifest.unpack (package.take manifestBlockSize)).appVersion,
      UInt32.ofNat (Manifest.unpack (package.take manifestBlockSize)).minimumBootloaderVersion,
      UInt32.ofNat (Manifest.unpack (package.take manifestBlockSize)).generation, _, _,
      hpackable.image_ge, hpackable.image_le, hpackable.packageId_length, ?_,
      (List.take_append_drop manifestBlockSize package).symm⟩
    rw [hu32 hpackable.app_le, hu32 hpackable.minimum_le, hu32 hpackable.generation_le]
    exact hvalid.repacked
  · rintro ⟨image, app, minimum, generation, packageId, block, -, -, -, hpack, rfl⟩
    exact ⟨_, (packManifest_valid hpack).1.validatePackage_eq⟩
  · rintro manifest image app minimum generation packageId block h hpack rfl
    obtain ⟨-, rfl⟩ := validatePackage_ok h
    exact (packManifest_valid hpack).2
  · intro manifest h
    obtain ⟨hvalid, rfl⟩ := validatePackage_ok h
    exact hvalid.repacked

/-- Version 1.0.0 of an eight-byte image, packed and read back. -/
theorem package_format_eight :
    let crc32 : Bytes → UInt32 := fun bytes => UInt32.ofNat bytes.length
    let image : Bytes := [1, 2, 3, 4, 5, 6, 7, 8]
    ∃ block manifest,
      packManifest crc32 image (.int (0x01000000 : UInt32).toNat) (.int (0 : UInt32).toNat)
          (7 : UInt32).toNat statePackage (List.replicate 12 9) = .ok block ∧
        validatePackage crc32 (block ++ image) = .ok manifest ∧
        manifest.appVersion = 0x01000000 ∧ manifest.generation = 7 ∧ manifest.imageSize = 8 := by
  intro crc32 image
  have hpackable : Packable image (0x01000000 : UInt32).toNat (0 : UInt32).toNat (7 : UInt32).toNat
      statePackage (List.replicate 12 9) := by
    constructor <;> decide
  have hpack := @packManifest_eq crc32 _ _ _ _ _ _ hpackable
  generalize manifestBody image (0x01000000 : UInt32).toNat (0 : UInt32).toNat (7 : UInt32).toNat
    statePackage (crc32 image).toNat (List.replicate 12 9) ++ leBytes 4 (crc32 (manifestBody image
    (0x01000000 : UInt32).toNat (0 : UInt32).toNat (7 : UInt32).toNat statePackage
    (crc32 image).toNat (List.replicate 12 9))).toNat = block at hpack
  obtain ⟨hiff, hfields, -⟩ := package_format crc32 (block ++ image)
  obtain ⟨manifest, hvalid⟩ := hiff.mpr ⟨image, 0x01000000, 0, 7, List.replicate 12 9, block,
    by decide, by decide, rfl, hpack, rfl⟩
  have hmanifest := hfields manifest image 0x01000000 0 7 (List.replicate 12 9) block hvalid hpack rfl
  refine ⟨block, manifest, hpack, hvalid, ?_, ?_, ?_⟩
  · rw [hmanifest]
    rfl
  · rw [hmanifest]
    rfl
  · rw [hmanifest]
    rfl

end SensorHost.Ota
