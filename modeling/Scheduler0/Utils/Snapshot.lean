import Scheduler0.Utils.Binary

/-!
# Snapshot decoding

`BytesFromSnapshot` restores the database from a Raft snapshot laid out as an
eight-byte little-endian size (`math.MaxUint64` when the database is
compressed, followed then by the compressed size), and the database bytes.
Each header is read from `b[offset:offset+8]`, a slice that Go cuts within the
capacity of the `ioutil.ReadAll` buffer, so `ReadUint64` always receives eight
bytes and its error path is never taken. The database slice is cut at
`offset+int64(sz)` in wrapping `int64` arithmetic.
-/

namespace Scheduler0.Utils

/-- How the gzip reader ends on the compressed bytes: `gzip.NewReader`,
`io.Copy` or `gz.Close` fails, or the decompressed database. -/
inductive Gunzip where
  | newReaderError (e : String)
  | copyError (e : String)
  | closeError (e : String)
  | ok (out : List UInt8)

def decompressed : Gunzip → Outcome String (List UInt8)
  | .newReaderError e => .error e
  | .copyError e => .error ("SQLite database decompress: " ++ e)
  | .closeError e => .error e
  | .ok out => .ok out

/-- `math.MaxUint64`, the header value that marks a compressed database. -/
def maxUint64 : ℕ := 2 ^ 64 - 1

/-- `int64(v)` for a `uint64` value `v`. -/
def int64OfUint64 (v : ℕ) : ℤ := if v < 2 ^ 63 then v else (v : ℤ) - 2 ^ 64

/-- `a + b` on `int64`, wrapping on overflow. -/
def addInt64 (a b : ℤ) : ℤ := (a + b + 2 ^ 63) % 2 ^ 64 - 2 ^ 63

def slicePanic : String := "runtime error: slice bounds out of range"

/-- The size headers of `BytesFromSnapshot`: whether the database is
compressed, its size, and the offset of its first byte. -/
def readHeader (b : ByteSlice) : Outcome String (Bool × ℕ × ℤ) :=
  let inc : ℤ := 8
  match b.slice 0 inc with
  | none => .panic slicePanic
  | some h =>
    match readUint64 h with
    | .error e => .error ("read compression check: " ++ e)
    | .ok sz =>
      if sz = maxUint64 then
        match b.slice inc (inc + inc) with
        | none => .panic slicePanic
        | some h =>
          match readUint64 h with
          | .error e => .error ("read compressed size: " ++ e)
          | .ok sz => .ok (true, sz, inc + inc)
      else .ok (false, sz, inc)

/-- The database part of `BytesFromSnapshot`: `sz` bytes from `offset`,
decompressed when the header said so; no database when `sz` is zero. -/
def readDatabase (gunzip : List UInt8 → Gunzip) (b : ByteSlice) (compressed : Bool)
    (sz : ℕ) (offset : ℤ) : Outcome String (List UInt8) :=
  if sz > 0 then
    match b.slice offset (addInt64 offset (int64OfUint64 sz)) with
    | none => .panic slicePanic
    | some data => if compressed then decompressed (gunzip data.bytes) else .ok data.bytes
  else .ok []

/-- `utils.BytesFromSnapshot` on a reader that yields `rc`; `spare` is the
unused capacity `ioutil.ReadAll` leaves behind the bytes it read. -/
def bytesFromSnapshot (gunzip : List UInt8 → Gunzip) (spare : ℕ)
    (rc : Except String (List UInt8)) : Outcome String (List UInt8) :=
  match rc with
  | .error e => .error ("readall: " ++ e)
  | .ok content =>
    let b := readAll content spare
    match readHeader b with
    | .ok (compressed, sz, offset) => readDatabase gunzip b compressed sz offset
    | .error e => .error e
    | .panic m => .panic m

/-! ## The header reads -/

/-- Each header is read from an eight-byte slice, so neither
`read compression check` nor `read compressed size` is ever returned. -/
theorem readHeader_ne_error (b : ByteSlice) (e : String) : readHeader b ≠ .error e := by
  unfold readHeader
  dsimp only
  split
  · simp
  · rename_i hs
    rw [readUint64_of_le (by rw [ByteSlice.len_of_slice_eq_some hs]; rfl)]
    dsimp only
    split_ifs
    · split
      · simp
      · rename_i hs'
        rw [readUint64_of_le (by rw [ByteSlice.len_of_slice_eq_some hs']; rfl)]
        simp
    · simp

theorem readHeader_first (v : UInt64) (rest : List UInt8) (spare : ℕ) :
    ∃ h, (readAll (writeUint64 v ++ rest) spare).slice 0 8 = some h ∧
      readUint64 h = .ok v.toNat := by
  obtain ⟨s, hs, hlen, hbytes⟩ := readAll_slice (writeUint64 v ++ rest) spare 0 8 (by simp; omega)
  refine ⟨s, hs, ?_⟩
  rw [readUint64_of_le (by rw [hlen]; rfl), hbytes, ← ofLE_writeUint64]
  simp [List.take_append_of_le_length, List.take_of_length_le]

theorem readHeader_plain (v : UInt64) (rest : List UInt8) (spare : ℕ)
    (hv : v.toNat ≠ maxUint64) :
    readHeader (readAll (writeUint64 v ++ rest) spare) = .ok (false, v.toNat, 8) := by
  obtain ⟨h, hs, hr⟩ := readHeader_first v rest spare
  simp [readHeader, hs, hr, hv]

theorem readHeader_compressed (w : UInt64) (rest : List UInt8) (spare : ℕ) :
    readHeader (readAll (writeUint64 (UInt64.ofNat maxUint64) ++ writeUint64 w ++ rest) spare) =
      .ok (true, w.toNat, 16) := by
  have hmax : (UInt64.ofNat maxUint64).toNat = maxUint64 :=
    UInt64.toNat_ofNat_of_lt (by decide)
  obtain ⟨h, hs, hr⟩ := readHeader_first (UInt64.ofNat maxUint64) (writeUint64 w ++ rest) spare
  obtain ⟨s, hs', hlen, hbytes⟩ :=
    readAll_slice (writeUint64 (UInt64.ofNat maxUint64) ++ writeUint64 w ++ rest) spare 8 16
      (by simp; omega)
  have hr' : readUint64 s = .ok w.toNat := by
    rw [readUint64_of_le (by rw [hlen]; rfl), hbytes, ← ofLE_writeUint64]
    simp [List.take_append_of_le_length, List.take_of_length_le]
  simp only [List.append_assoc] at hs hs' hr'
  simp [readHeader, hs, hr, hmax, hs', hr']

/-- Every error `BytesFromSnapshot` returns comes from the reader or from the
gzip reader: neither header read ever fails. -/
theorem bytesFromSnapshot_error (gunzip : List UInt8 → Gunzip) (spare : ℕ)
    (rc : Except String (List UInt8)) (e : String)
    (h : bytesFromSnapshot gunzip spare rc = .error e) :
    (∃ e', rc = .error e' ∧ e = "readall: " ++ e') ∨ ∃ c, decompressed (gunzip c) = .error e := by
  cases rc with
  | error e' =>
    simp only [bytesFromSnapshot, Outcome.error.injEq] at h
    exact .inl ⟨e', rfl, h.symm⟩
  | ok content =>
    simp only [bytesFromSnapshot] at h
    split at h
    · unfold readDatabase at h
      split_ifs at h with hsz hc
      · split at h
        · cases h
        · exact .inr ⟨_, h⟩
      · split at h <;> cases h
    · exact absurd ‹readHeader _ = .error _› (readHeader_ne_error _ _)
    · cases h

theorem bytesFromSnapshot_error_gzip :
    let gunzip : List UInt8 → Gunzip := fun _ => .newReaderError "gzip: invalid header"
    let rc : Except String (List UInt8) :=
      .ok (writeUint64 (UInt64.ofNat maxUint64) ++ writeUint64 1 ++ [7])
    bytesFromSnapshot gunzip 0 rc = .error "gzip: invalid header" ∧
      ((∃ e', rc = .error e' ∧ "gzip: invalid header" = "readall: " ++ e') ∨
        ∃ c, decompressed (gunzip c) = .error "gzip: invalid header") :=
  ⟨rfl, bytesFromSnapshot_error (fun _ => .newReaderError "gzip: invalid header") 0
    (.ok (writeUint64 (UInt64.ofNat maxUint64) ++ writeUint64 1 ++ [7])) _ rfl⟩

/-! ## The database slice -/

theorem addInt64_of_lt {a b : ℤ} (ha : 0 ≤ a) (hb : 0 ≤ b) (h : a + b < 2 ^ 63) :
    addInt64 a b = a + b := by
  unfold addInt64
  omega

theorem addInt64_int64OfUint64_of_overflow {sz : ℕ} {offset : ℤ} (hoff : 0 ≤ offset ∧ offset ≤ 16)
    (hsz : sz < 2 ^ 64) (h : 2 ^ 63 ≤ offset + sz) :
    addInt64 offset (int64OfUint64 sz) = offset + sz - 2 ^ 64 := by
  unfold addInt64 int64OfUint64
  split_ifs <;> omega

theorem readDatabase_zero (gunzip : List UInt8 → Gunzip) (b : ByteSlice) (compressed : Bool)
    (offset : ℤ) : readDatabase gunzip b compressed 0 offset = .ok [] := rfl

theorem readDatabase_slice (gunzip : List UInt8 → Gunzip) (b : ByteSlice) (compressed : Bool)
    {sz : ℕ} {offset : ℤ} (hsz : 0 < sz) (hoff : 0 ≤ offset) (hlt : offset + sz < 2 ^ 63) :
    readDatabase gunzip b compressed sz offset =
      match b.slice offset (offset + sz) with
      | none => .panic slicePanic
      | some data => if compressed then decompressed (gunzip data.bytes) else .ok data.bytes := by
  rw [readDatabase, if_pos hsz, int64OfUint64, if_pos (by omega),
    addInt64_of_lt hoff (by omega) hlt]

theorem readDatabase_of_le (gunzip : List UInt8 → Gunzip) (content : List UInt8) (spare : ℕ)
    (compressed : Bool) (sz : ℕ) (offset : ℤ) (hoff : 0 ≤ offset) (hsz : 0 < sz)
    (hend : offset + sz ≤ content.length) (hlt : offset + sz < 2 ^ 63) :
    readDatabase gunzip (readAll content spare) compressed sz offset =
      if compressed then decompressed (gunzip ((content.drop offset.toNat).take sz))
      else .ok ((content.drop offset.toNat).take sz) := by
  obtain ⟨s, hs, -, hbytes⟩ := readAll_slice content spare offset (offset + sz) (by simp only [maxInt]; omega)
  have hb : s.bytes = (content.drop offset.toNat).take sz := by
    rw [hbytes, show (offset + sz - offset).toNat = sz by omega]
    exact take_drop_append_of_le (by omega)
  rw [readDatabase_slice _ _ _ hsz hoff hlt, hs]
  simp only [hb]

theorem readDatabase_past_end (gunzip : List UInt8 → Gunzip) (content : List UInt8)
    (spare sz : ℕ) (offset : ℤ) (hoff : 0 ≤ offset ∧ offset ≤ content.length)
    (hend : content.length < offset + sz) (hcap : offset + sz ≤ content.length + spare)
    (hlt : offset + sz < 2 ^ 63) :
    readDatabase gunzip (readAll content spare) false sz offset =
      .ok (content.drop offset.toNat ++
        List.replicate (offset.toNat + sz - content.length) 0) := by
  obtain ⟨s, hs, -, hbytes⟩ := readAll_slice content spare offset (offset + sz) (by simp only [maxInt]; omega)
  have hb : s.bytes = content.drop offset.toNat ++
      List.replicate (offset.toNat + sz - content.length) 0 := by
    rw [hbytes, show (offset + sz - offset).toNat = sz by omega,
      List.drop_append_of_le_length (by omega), List.take_append_eq_append_take,
      List.take_of_length_le (by simp; omega), List.take_replicate]
    simp only [List.length_drop]
    congr 2
    omega
  rw [readDatabase_slice _ _ _ (by omega) hoff.1 hlt, hs]
  simp only [hb, Bool.false_eq_true, if_false]

theorem readDatabase_overflow (gunzip : List UInt8 → Gunzip) (b : ByteSlice)
    (compressed : Bool) (sz : ℕ) (offset : ℤ) (hoff : 0 ≤ offset ∧ offset ≤ 16)
    (hsz : sz < 2 ^ 64) (h : 2 ^ 63 ≤ offset + sz) :
    readDatabase gunzip b compressed sz offset = .panic slicePanic := by
  have hhi := addInt64_int64OfUint64_of_overflow hoff hsz h
  have hnone : b.slice offset (addInt64 offset (int64OfUint64 sz)) = none :=
    ByteSlice.slice_eq_none (by rw [hhi]; omega)
  simp [readDatabase, show 0 < sz by omega, hnone]

/-! ## Restoring a snapshot -/

theorem bytesFromSnapshot_plain (gunzip : List UInt8 → Gunzip) (spare : ℕ) (v : UInt64)
    (rest : List UInt8) (hv : v.toNat ≠ maxUint64) :
    bytesFromSnapshot gunzip spare (.ok (writeUint64 v ++ rest)) =
      readDatabase gunzip (readAll (writeUint64 v ++ rest) spare) false v.toNat 8 := by
  simp only [bytesFromSnapshot, readHeader_plain v rest spare hv]

theorem bytesFromSnapshot_compressed (gunzip : List UInt8 → Gunzip) (spare : ℕ) (w : UInt64)
    (rest : List UInt8) :
    bytesFromSnapshot gunzip spare
        (.ok (writeUint64 (UInt64.ofNat maxUint64) ++ writeUint64 w ++ rest)) =
      readDatabase gunzip
        (readAll (writeUint64 (UInt64.ofNat maxUint64) ++ writeUint64 w ++ rest) spare)
        true w.toNat 16 := by
  simp only [bytesFromSnapshot, readHeader_compressed w rest spare]

/-- The snapshot framing round trip: a raw database of size `|d|` comes back
as `d`, size zero as no database, and a compressed one hands exactly its `|c|`
bytes to the gzip reader, whatever follows and whatever the spare capacity,
for every snapshot a Go slice can hold. -/
theorem bytesFromSnapshot_frame (gunzip : List UInt8 → Gunzip) (spare : ℕ)
    (d c r : List UInt8) :
    (0 < d.length → d.length < 2 ^ 63 →
      (writeUint64 (UInt64.ofNat d.length) ++ d ++ r).length ≤ maxInt →
      bytesFromSnapshot gunzip spare (.ok (writeUint64 (UInt64.ofNat d.length) ++ d ++ r)) =
        .ok d) ∧
    bytesFromSnapshot gunzip spare (.ok (writeUint64 0 ++ r)) = .ok [] ∧
    (0 < c.length → c.length < 2 ^ 63 →
      (writeUint64 (UInt64.ofNat maxUint64) ++ writeUint64 (UInt64.ofNat c.length) ++ c ++
        r).length ≤ maxInt →
      bytesFromSnapshot gunzip spare
          (.ok (writeUint64 (UInt64.ofNat maxUint64) ++ writeUint64 (UInt64.ofNat c.length) ++
            c ++ r)) =
        decompressed (gunzip c)) := by
  refine ⟨fun hd _ hfit => ?_, ?_, fun hc _ hfit => ?_⟩
  · simp only [List.length_append, length_writeUint64, maxInt] at hfit
    have hv : (UInt64.ofNat d.length).toNat = d.length :=
      UInt64.toNat_ofNat_of_lt (by unfold UInt64.size; omega)
    rw [List.append_assoc, bytesFromSnapshot_plain _ _ _ _ (by rw [hv, maxUint64]; omega), hv,
      readDatabase_of_le _ _ _ _ d.length 8 (by omega) hd
        (by simp only [List.length_append, length_writeUint64]; omega) (by omega)]
    simp [List.take_of_length_le]
  · rw [bytesFromSnapshot_plain _ _ _ _ (by simp [maxUint64])]
    rfl
  · simp only [List.length_append, length_writeUint64, maxInt] at hfit
    have hw : (UInt64.ofNat c.length).toNat = c.length :=
      UInt64.toNat_ofNat_of_lt (by unfold UInt64.size; omega)
    rw [List.append_assoc _ c, bytesFromSnapshot_compressed, hw,
      readDatabase_of_le _ _ _ _ c.length 16 (by omega) hc
        (by simp only [List.length_append, length_writeUint64]; omega) (by omega)]
    rw [if_pos rfl, show Int.toNat 16 = 16 from rfl, List.drop_left' (by simp),
      List.take_left' rfl]

theorem bytesFromSnapshot_frame_one_byte :
    bytesFromSnapshot (fun _ => .ok []) 0 (.ok (writeUint64 (UInt64.ofNat [7].length) ++ [7] ++ [])) =
        .ok [7] ∧
      bytesFromSnapshot .ok 0
          (.ok (writeUint64 (UInt64.ofNat maxUint64) ++ writeUint64 (UInt64.ofNat [7].length) ++
            [7] ++ [])) = .ok [7] :=
  ⟨(bytesFromSnapshot_frame _ 0 [7] [7] []).1 (by simp) (by simp) (by simp),
    (bytesFromSnapshot_frame .ok 0 [7] [7] []).2.2 (by simp) (by simp) (by simp)⟩

theorem ofLE_replicate_zero (n : ℕ) : ofLE (List.replicate n 0) = 0 := by
  induction n <;> simp [ofLE, List.replicate_succ, *]

/-- Nothing bounds the slices by the bytes actually read: an empty snapshot
restores as no database, a size past the end returns zeros from the spare
capacity of the `ReadAll` buffer, and a size that overflows `int64` panics;
none of them is an error. -/
theorem bytesFromSnapshot_unchecked_bounds (gunzip : List UInt8 → Gunzip) (spare : ℕ)
    (v : UInt64) (rest : List UInt8) :
    (8 ≤ spare → bytesFromSnapshot gunzip spare (.ok []) = .ok []) ∧
    (rest.length < v.toNat → v.toNat ≤ rest.length + spare → v.toNat + 8 < 2 ^ 63 →
      bytesFromSnapshot gunzip spare (.ok (writeUint64 v ++ rest)) =
        .ok (rest ++ List.replicate (v.toNat - rest.length) 0)) ∧
    (v.toNat ≠ maxUint64 → 2 ^ 63 ≤ v.toNat + 8 →
      bytesFromSnapshot gunzip spare (.ok (writeUint64 v ++ rest)) = .panic slicePanic) := by
  refine ⟨fun hs => ?_, fun hlo hhi hlt => ?_, fun hv hov => ?_⟩
  · obtain ⟨s, hslice, hlen, hbytes⟩ := readAll_slice [] spare 0 8 (by simp; omega)
    have hr : readUint64 s = .ok 0 := by
      rw [readUint64_of_le (by rw [hlen]; rfl), hbytes]
      simp [List.take_replicate, ofLE_replicate_zero]
    simp [bytesFromSnapshot, readHeader, hslice, hr, maxUint64, readDatabase_zero]
  · have hlen : (writeUint64 v ++ rest).length = 8 + rest.length := by simp
    rw [bytesFromSnapshot_plain _ _ _ _ (by rw [maxUint64]; omega),
      readDatabase_past_end _ _ _ _ 8 (by rw [hlen]; omega) (by rw [hlen]; omega)
        (by rw [hlen]; omega) (by omega)]
    simp only [hlen, List.drop_left' (length_writeUint64 v)]
    congr 3
    omega
  · rw [bytesFromSnapshot_plain _ _ _ _ hv]
    exact readDatabase_overflow _ _ _ _ _ (by omega) v.toNat_lt_size (by omega)

theorem bytesFromSnapshot_unchecked_bounds_at :
    bytesFromSnapshot (fun _ => .ok []) 512 (.ok []) = .ok [] ∧
    bytesFromSnapshot (fun _ => .ok []) 512 (.ok (writeUint64 5 ++ [1, 2])) =
      .ok ([1, 2] ++ List.replicate ((5 : UInt64).toNat - [1, 2].length) 0) ∧
    bytesFromSnapshot (fun _ => .ok []) 512 (.ok (writeUint64 (UInt64.ofNat (2 ^ 63)) ++ [])) =
      .panic slicePanic :=
  ⟨(bytesFromSnapshot_unchecked_bounds _ 512 5 [1, 2]).1 (by omega),
    (bytesFromSnapshot_unchecked_bounds _ 512 5 [1, 2]).2.1 (by decide) (by decide) (by decide),
    (bytesFromSnapshot_unchecked_bounds _ 512 (UInt64.ofNat (2 ^ 63)) []).2.2
      (by rw [UInt64.toNat_ofNat_of_lt (by unfold UInt64.size; omega), maxUint64]; omega)
      (by rw [UInt64.toNat_ofNat_of_lt (by unfold UInt64.size; omega)]; omega)⟩

end Scheduler0.Utils
