import Combinatory.Artifact.File
import Combinatory.Proofs.ArenaLayout

/-!
# Artifact files: framing and round trip

Reading a file whose header `header` wrote finds back the codec and both sizes, and refuses
every proper prefix as truncated (`decode_framed_cut`). Writing then reading an artifact gives
it back exactly when it is valid (`decode_encode`), given that the payload reader and the
codec invert what was written.
-/

namespace Combinatory

namespace Artifact

/-! ### Bytes -/

theorem getElem!_eq_getD (b : ByteArray) (i : Nat) : b[i]! = b.data.toList.getD i 0 := by
  rw [getElem!_def, show b[i]? = b.data[i]? from rfl, List.getD_eq_getElem?_getD,
    Array.getElem?_toList]
  cases b.data[i]? <;> rfl

/-- A 32-bit little-endian number is read back from where it was written. -/
theorem word32_of_toList {b : ByteArray} (pre post : List UInt8) {n : Nat}
    (hb : b.data.toList = pre ++ Pack.littleEndian 4 n ++ post) (hn : n < 2 ^ 32) :
    word32 b pre.length = n := by
  simp [word32, getElem!_eq_getD, hb, List.getD_eq_getElem?_getD, Pack.littleEndian,
    List.range_succ]
  omega

/-- A size a header may announce fits in its 32 bits. -/
theorem lt_of_le_maxPayload {n : Nat} (h : n ≤ maxPayload) : n < 2 ^ 32 := by
  unfold maxPayload at h
  omega

@[simp] theorem size_mk_toArray (l : List UInt8) : (⟨l.toArray⟩ : ByteArray).size = l.length :=
  show l.toArray.size = l.length by simp

/-- A failure ends a computation in `Except`. -/
@[simp] theorem throw_bind {ε α β : Type} (e : ε) (f : α → Except ε β) :
    (throw e >>= f) = throw e := rfl

@[simp] theorem ok_bind {ε α β : Type} (x : α) (f : α → Except ε β) :
    (Except.ok x >>= f) = f x := rfl

/-! ### Framed files -/

/-- A file: the header of a payload of `raw` bytes stored in `pk` bytes (zero when stored as
it is) under codec byte `code`, then the bytes stored. -/
def framed (code raw pk : Nat) (body : ByteArray) : ByteArray :=
  ⟨(header code raw pk).toArray⟩ ++ body

section Framed

variable {code raw pk : Nat} {body : ByteArray}

@[simp] theorem length_header : (header code raw pk).length = headerSize := by
  simp [header, magic, Pack.littleEndian, headerSize]

@[simp] theorem size_header : (⟨(header code raw pk).toArray⟩ : ByteArray).size = headerSize := by
  simp

theorem size_framed : (framed code raw pk body).size = headerSize + body.size := by
  simp [framed, ByteArray.size_append]

theorem magic_framed : ((framed code raw pk body).extract 0 4).toList = magic := by
  rw [Region.toList_eq]
  simp [framed, ByteArray.data_extract, header, magic, List.extract]

theorem codec_framed (hc : code < 256) : (framed code raw pk body)[4]!.toNat = code := by
  simp [getElem!_eq_getD, framed, header, magic, List.getD_eq_getElem?_getD]
  omega

theorem word32_framed_raw (hr : raw < 2 ^ 32) : word32 (framed code raw pk body) 5 = raw :=
  word32_of_toList (magic ++ [code.toUInt8]) (Pack.littleEndian 4 pk ++ body.data.toList)
    (by simp [framed, header]) hr

theorem word32_framed_packed (hp : pk < 2 ^ 32) : word32 (framed code raw pk body) 9 = pk :=
  word32_of_toList (magic ++ [code.toUInt8] ++ Pack.littleEndian 4 raw) body.data.toList
    (by simp [framed, header]) hp

theorem extract_framed (m : Nat) :
    (framed code raw pk body).extract headerSize (headerSize + m) = body.extract 0 m := by
  have h := ByteArray.extract_append_size_add (a := ⟨(header code raw pk).toArray⟩) (b := body)
    (i := 0) (j := m)
  simpa only [framed, size_header, Nat.add_zero] using h

theorem decode_lt_headerSize {data : ByteArray} (h : data.size < headerSize) :
    decode data = .error (.truncated (shortRead data.size)) := by
  simp [decode, h]
  rfl

/-- Reading a file under a sane header: the codec byte and both sizes are found back, a file
holding fewer bytes than announced is truncated, and otherwise exactly the announced bytes
are read on. -/
theorem decode_framed (hc : code < 256) (hr : raw ≤ maxPayload) (hp : pk ≤ raw) :
    decode (framed code raw pk body) =
      let size := if pk ≠ 0 then pk else raw
      if size > body.size then .error (.truncated (shortRead body.size)) else do
      let stored := body.extract 0 size
      let payload ← if pk ≠ 0 then decompressWith stored raw (Codec.ofCode code) else pure stored
      let a ← match unpack payload with
        | .ok a => pure a
        | .error e => throw (.corrupt e)
      a.validate
      return a := by
  have hr32 : raw < 2 ^ 32 := lt_of_le_maxPayload hr
  have hlong : ¬ headerSize + body.size < headerSize := by omega
  have hsane : ¬ (raw > maxPayload ∨ pk > raw) := by omega
  simp only [decode, size_framed, hlong, magic_framed, codec_framed hc, word32_framed_raw hr32,
    word32_framed_packed (show pk < 2 ^ 32 by omega), hsane, extract_framed,
    Nat.add_sub_cancel_left, if_false, ne_eq, not_true_eq_false, pure_bind, throw_bind]
  rfl

theorem extract_zero_framed (m : Nat) :
    (framed code raw pk body).extract 0 (headerSize + m) =
      framed code raw pk (body.extract 0 m) := by
  have hhead : (⟨(header code raw pk).toArray⟩ : ByteArray).extract 0 (headerSize + m) =
      ⟨(header code raw pk).toArray⟩ :=
    ByteArray.ext (by simp [ByteArray.data_extract, Array.extract_eq_self_of_le])
  rw [framed, ByteArray.extract_append, hhead, size_header, Nat.zero_sub, Nat.add_sub_cancel_left,
    framed]

theorem decode_framed_short (hc : code < 256) (hr : raw ≤ maxPayload) (hp : pk ≤ raw)
    (hs : body.size < if pk ≠ 0 then pk else raw) :
    decode (framed code raw pk body) = .error (.truncated (shortRead body.size)) := by
  rw [decode_framed hc hr hp]
  exact if_pos hs

/-- A payload stored as it is is read as it is. -/
theorem decode_framed_raw (hc : code < 256) (hr : body.size ≤ maxPayload) {a : Artifact}
    (ha : unpack body = .ok a) :
    decode (framed code body.size 0 body) = a.validate.map fun _ => a := by
  rw [decode_framed hc hr (Nat.zero_le _)]
  simp [ByteArray.extract_zero_size, ha]
  rfl

/-- A compressed payload is read from what the codec gives back. -/
theorem decode_framed_packed (hc : code < 256) (hr : raw ≤ maxPayload) (h0 : 0 < body.size)
    (hlt : body.size ≤ raw) {payload : ByteArray}
    (hd : decompressWith body raw (Codec.ofCode code) = .ok payload) {a : Artifact}
    (ha : unpack payload = .ok a) :
    decode (framed code raw body.size body) = a.validate.map fun _ => a := by
  rw [decode_framed hc hr hlt]
  simp [ByteArray.extract_zero_size, ha, hd, Nat.pos_iff_ne_zero.1 h0]
  rfl

/-- Every proper prefix of a file whose header announces exactly the bytes stored is refused
as truncated, naming how many bytes were read of the part it ends in. -/
theorem decode_framed_cut (hc : code < 256) (hr : raw ≤ maxPayload) (hp : pk ≤ raw)
    (hsize : (if pk ≠ 0 then pk else raw) = body.size) {k : Nat}
    (hk : k < (framed code raw pk body).size) :
    decode ((framed code raw pk body).extract 0 k) =
      .error (.truncated (shortRead (if k < headerSize then k else k - headerSize))) := by
  rw [size_framed] at hk
  by_cases hkh : k < headerSize
  · -- cut inside the header
    have hlen : ((framed code raw pk body).extract 0 k).size = k := by
      simp [ByteArray.size_extract, size_framed]; omega
    rw [decode_lt_headerSize (by omega), hlen, if_pos hkh]
  · -- cut inside the stored bytes
    obtain ⟨m, rfl⟩ : ∃ m, k = headerSize + m := ⟨k - headerSize, by omega⟩
    have hlen : (body.extract 0 m).size = m := by simp [ByteArray.size_extract]; omega
    rw [extract_zero_framed, decode_framed_short hc hr hp (by omega), hlen, if_neg hkh,
      Nat.add_sub_cancel_left]

end Framed

/-! ### Writing -/

theorem shorter_some {raw packed p : ByteArray} (h : compressWith.shorter raw packed = some p) :
    0 < p.size ∧ p.size < raw.size := by
  unfold compressWith.shorter at h
  split_ifs at h with hs
  cases h
  omega

/-- Compression with a codec a file can be written with succeeds: with none it keeps
nothing, and otherwise at most a nonempty form shorter than the payload. -/
theorem compressWith_ok (raw : ByteArray) {c : Codec} (hc : c = .none ∨ c = .lz4 ∨ c = .zstd) :
    ∃ r, compressWith raw c = .ok r ∧ (c = .none → r = none) ∧
      ∀ p, r = some p → 0 < p.size ∧ p.size < raw.size := by
  rcases hc with rfl | rfl | rfl
  · exact ⟨none, rfl, fun _ => rfl, fun _ h => nomatch h⟩
  · exact ⟨_, rfl, (fun h => nomatch h), fun _ h => shorter_some h⟩
  · exact ⟨_, rfl, (fun h => nomatch h), fun _ h => shorter_some h⟩

/-- The file written: the payload as it is behind a header announcing no compressed size,
or the compressed form kept behind a header announcing its size. -/
theorem encode_of_compressWith {a : Artifact} {c : Codec} {r : Option ByteArray}
    (h : compressWith ⟨a.pack.toArray⟩ c = .ok r) :
    encode a c = .ok (match r with
      | none => framed c.code a.pack.length 0 ⟨a.pack.toArray⟩
      | some p => framed c.code a.pack.length p.size p) := by
  cases r <;> simp [encode, h, framed] <;> rfl

/-! ### Round trip -/

/-- Writing an artifact with no codec, LZ4 or Zstandard succeeds, and reading the file back
gives the artifact when it is valid and the validation error otherwise; every proper prefix of
the file is refused as truncated. -/
theorem decode_encode (a : Artifact) (c : Codec) (hc : c = .none ∨ c = .lz4 ∨ c = .zstd)
    (hsize : a.pack.length ≤ maxPayload) (hunpack : unpack ⟨a.pack.toArray⟩ = .ok a)
    (hcodec : ∀ p, compressWith ⟨a.pack.toArray⟩ c = .ok (some p) →
      decompressWith p a.pack.length c = .ok ⟨a.pack.toArray⟩) :
    ∃ bytes, encode a c = .ok bytes ∧ decode bytes = a.validate.map (fun _ => a) ∧
      word32 bytes 5 = a.pack.length ∧ (c = .none → word32 bytes 9 = 0) ∧
      ∀ k < bytes.size, decode (bytes.extract 0 k) =
        .error (.truncated (shortRead (if k < headerSize then k else k - headerSize))) := by
  have hcode : c.code < 256 := by rcases hc with rfl | rfl | rfl <;> decide
  have hof : Codec.ofCode c.code = c := by rcases hc with rfl | rfl | rfl <;> rfl
  have hr32 : a.pack.length < 2 ^ 32 := lt_of_le_maxPayload hsize
  obtain ⟨r, hr, hnone, hkept⟩ := compressWith_ok ⟨a.pack.toArray⟩ hc
  refine ⟨_, encode_of_compressWith hr, ?_⟩
  cases r with
  | none =>
    -- the payload is stored as it is
    have hraw := decode_framed_raw hcode (by simpa using hsize) hunpack
    simp only [size_mk_toArray] at hraw
    refine ⟨hraw, word32_framed_raw hr32, fun _ => word32_framed_packed (by omega),
      fun k hk => decode_framed_cut hcode hsize (Nat.zero_le _) (by simp) hk⟩
  | some p =>
    -- the compressed form is stored, and announced
    obtain ⟨hp0, hplt⟩ := hkept p rfl
    simp only [size_mk_toArray] at hplt
    have hd : decompressWith p a.pack.length (Codec.ofCode c.code) = .ok ⟨a.pack.toArray⟩ := by
      rw [hof]; exact hcodec p hr
    refine ⟨decode_framed_packed hcode hsize hp0 (Nat.le_of_lt hplt) hd hunpack,
      word32_framed_raw hr32, (fun h => nomatch hnone h), fun k hk => ?_⟩
    exact decode_framed_cut hcode hsize (Nat.le_of_lt hplt)
      (by simp [Nat.pos_iff_ne_zero.1 hp0]) hk

/-- An artifact of one statement `f = K S`: `S`, `K` and their application. -/
def sampleArtifact : Artifact :=
  ⟨schemaVersion, [109], [⟨1, 0, 0, []⟩, ⟨2, 0, 0, []⟩, ⟨3, 1, 0, []⟩], [⟨[102], 2⟩]⟩

/-- An artifact listing the `K` node three times: its payload repeats a record. -/
def repeatedArtifact : Artifact := ⟨schemaVersion, [], List.replicate 3 ⟨2, 0, 0, []⟩, []⟩

theorem decode_encode_lz4_sample :
    repeatedArtifact.pack.length ≤ maxPayload ∧
    unpack ⟨repeatedArtifact.pack.toArray⟩ = .ok repeatedArtifact ∧
    compressWith ⟨repeatedArtifact.pack.toArray⟩ .lz4 =
      .ok (some (Lz4.compress ⟨repeatedArtifact.pack.toArray⟩)) ∧
    (∀ p, compressWith ⟨repeatedArtifact.pack.toArray⟩ .lz4 = .ok (some p) →
      decompressWith p repeatedArtifact.pack.length .lz4 = .ok ⟨repeatedArtifact.pack.toArray⟩) ∧
    ∃ bytes, encode repeatedArtifact .lz4 = .ok bytes ∧
      decode bytes = repeatedArtifact.validate.map (fun _ => repeatedArtifact) ∧
      word32 bytes 5 = repeatedArtifact.pack.length ∧ (Codec.lz4 = .none → word32 bytes 9 = 0) ∧
      ∀ k < bytes.size, decode (bytes.extract 0 k) =
        .error (.truncated (shortRead (if k < headerSize then k else k - headerSize))) := by
  have hsize : repeatedArtifact.pack.length ≤ maxPayload := by decide +kernel
  have hunpack : unpack ⟨repeatedArtifact.pack.toArray⟩ = .ok repeatedArtifact := by decide +kernel
  -- the one evaluation of the codec: its output is shorter, and reads back as the payload
  have hlz4 : 0 < (Lz4.compress ⟨repeatedArtifact.pack.toArray⟩).size ∧
      (Lz4.compress ⟨repeatedArtifact.pack.toArray⟩).size < repeatedArtifact.pack.length ∧
      decompressWith (Lz4.compress ⟨repeatedArtifact.pack.toArray⟩) repeatedArtifact.pack.length .lz4 =
        .ok ⟨repeatedArtifact.pack.toArray⟩ := by
    decide +kernel
  have hkept : compressWith ⟨repeatedArtifact.pack.toArray⟩ .lz4 =
      .ok (some (Lz4.compress ⟨repeatedArtifact.pack.toArray⟩)) := by
    show Except.ok (compressWith.shorter _ _) = _
    rw [compressWith.shorter, if_neg (by simp only [size_mk_toArray]; omega)]
  have hcodec : ∀ p, compressWith ⟨repeatedArtifact.pack.toArray⟩ .lz4 = .ok (some p) →
      decompressWith p repeatedArtifact.pack.length .lz4 = .ok ⟨repeatedArtifact.pack.toArray⟩ := by
    intro p hp
    rw [hkept, Except.ok.injEq, Option.some.injEq] at hp
    rw [← hp]
    exact hlz4.2.2
  exact ⟨hsize, hunpack, hkept, hcodec,
    decode_encode repeatedArtifact .lz4 (.inr (.inl rfl)) hsize hunpack hcodec⟩

end Artifact

end Combinatory
