import Scheduler0.Utils.Errors

/-!
# Little-endian words and Go byte slices

`ReadUint64` and `WriteUint64` in `utils/misc.go` move a `uint64` through
`binary.LittleEndian`. Snapshot decoding reads them out of the buffer that
`ioutil.ReadAll` returns, and slices that buffer with Go's slice expression,
whose upper bound is the capacity, not the length. A `ByteSlice` therefore
keeps the whole backing array behind the slice, with Go's bound of
`math.MaxInt64` on length and capacity; `readAll` leaves the spare capacity
zeroed, as Go's allocator does.
-/

namespace Scheduler0.Utils

def toLE : ℕ → ℕ → List UInt8
  | 0, _ => []
  | w + 1, n => UInt8.ofNat (n % 256) :: toLE w (n / 256)

def ofLE : List UInt8 → ℕ
  | [] => 0
  | b :: bs => b.toNat + 256 * ofLE bs

@[simp] theorem length_toLE (w n : ℕ) : (toLE w n).length = w := by
  induction w generalizing n <;> simp [toLE, *]

theorem ofLE_toLE (w n : ℕ) : ofLE (toLE w n) = n % 256 ^ w := by
  induction w generalizing n with
  | zero => simp [toLE, ofLE, Nat.mod_one]
  | succ w ih =>
    have hb : (UInt8.ofNat (n % 256)).toNat = n % 256 :=
      UInt8.toNat_ofNat_of_lt (Nat.mod_lt _ (by decide))
    rw [toLE, ofLE, ih, hb, Nat.pow_succ', Nat.mod_mul]

theorem toLE_ofLE (l : List UInt8) : toLE l.length (ofLE l) = l := by
  induction l with
  | nil => rfl
  | cons b bs ih =>
    have hb : b.toNat < 256 := b.toNat_lt_size
    have hmod : (b.toNat + 256 * ofLE bs) % 256 = b.toNat := by omega
    have hdiv : (b.toNat + 256 * ofLE bs) / 256 = ofLE bs := by omega
    rw [List.length_cons, ofLE, toLE, hmod, hdiv, ih]
    exact congrArg (· :: bs) (UInt8.toNat.inj (UInt8.toNat_ofNat_of_lt hb))

theorem ofLE_lt (l : List UInt8) : ofLE l < 256 ^ l.length := by
  induction l with
  | nil => simp [ofLE]
  | cons b bs ih =>
    have hb : b.toNat < 256 := b.toNat_lt_size
    simp only [ofLE, List.length_cons, Nat.pow_succ']
    omega

/-- `utils.WriteUint64`: the eight bytes `binary.Write` puts on the writer. -/
def writeUint64 (v : UInt64) : List UInt8 := toLE 8 v.toNat

@[simp] theorem length_writeUint64 (v : UInt64) : (writeUint64 v).length = 8 :=
  length_toLE 8 _

theorem ofLE_writeUint64 (v : UInt64) : ofLE (writeUint64 v) = v.toNat := by
  rw [writeUint64, ofLE_toLE]
  exact Nat.mod_eq_of_lt v.toNat_lt_size

/-- `math.MaxInt64`: no Go slice has a greater length or capacity. -/
@[simp] def maxInt : ℕ := 2 ^ 63 - 1

/-- A Go `[]byte`: the backing array from the slice's first element, and the
length. Its capacity is the backing array up to `math.MaxInt64` elements, so
neither length nor capacity exceeds what a Go slice can hold. -/
structure ByteSlice where
  backing : List UInt8
  len : ℕ
  len_le_cap : len ≤ min backing.length maxInt

namespace ByteSlice

def cap (b : ByteSlice) : ℕ := min b.backing.length maxInt

def bytes (b : ByteSlice) : List UInt8 := b.backing.take b.len

theorem cap_le_length (b : ByteSlice) : b.cap ≤ b.backing.length := min_le_left _ _

theorem len_le_length (b : ByteSlice) : b.len ≤ b.backing.length := (le_min_iff.1 b.len_le_cap).1

/-- The slice expression `b[lo:hi]`; `none` where Go panics. Go requires
`0 ≤ lo ≤ hi ≤ cap(b)`, so the result may reach past `len(b)`, and its
capacity is `cap(b) - lo`. -/
def slice (b : ByteSlice) (lo hi : ℤ) : Option ByteSlice :=
  if h : 0 ≤ lo ∧ lo ≤ hi ∧ hi ≤ b.cap then
    some ⟨(b.backing.take b.cap).drop lo.toNat, (hi - lo).toNat, by
      have := b.cap_le_length
      simp only [cap, maxInt] at h this ⊢
      simp only [List.length_drop, List.length_take]
      omega⟩
  else none

theorem slice_eq_some {b : ByteSlice} {lo hi : ℤ} (h : 0 ≤ lo ∧ lo ≤ hi ∧ hi ≤ b.cap) :
    ∃ s, b.slice lo hi = some s ∧ s.len = (hi - lo).toNat ∧
      s.bytes = (b.backing.drop lo.toNat).take (hi - lo).toNat := by
  refine ⟨_, dif_pos h, rfl, ?_⟩
  show ((b.backing.take b.cap).drop lo.toNat).take (hi - lo).toNat = _
  rw [List.drop_take, List.take_take, min_eq_left (by omega)]

theorem slice_eq_none {b : ByteSlice} {lo hi : ℤ} (h : ¬(0 ≤ lo ∧ lo ≤ hi ∧ hi ≤ b.cap)) :
    b.slice lo hi = none :=
  dif_neg h

theorem len_of_slice_eq_some {b s : ByteSlice} {lo hi : ℤ} (h : b.slice lo hi = some s) :
    s.len = (hi - lo).toNat := by
  unfold slice at h
  split_ifs at h
  cases h
  rfl

@[simp] theorem length_bytes (b : ByteSlice) : b.bytes.length = b.len := by
  simp [bytes, b.len_le_length]

end ByteSlice

/-- `ioutil.ReadAll` on a reader holding `content`: a slice of that length
whose `spare` further bytes of capacity are zero. -/
def readAll (content : List UInt8) (spare : ℕ) : ByteSlice :=
  ⟨content ++ List.replicate spare 0, min content.length maxInt, by
    simp only [List.length_append, List.length_replicate]
    omega⟩

@[simp] theorem readAll_cap (content : List UInt8) (spare : ℕ) :
    (readAll content spare).cap = min (content.length + spare) maxInt := by
  simp [readAll, ByteSlice.cap]

@[simp] theorem readAll_backing (content : List UInt8) (spare : ℕ) :
    (readAll content spare).backing = content ++ List.replicate spare 0 := rfl

theorem readAll_slice (content : List UInt8) (spare : ℕ) (lo hi : ℤ)
    (h : 0 ≤ lo ∧ lo ≤ hi ∧ hi ≤ content.length + spare ∧ hi ≤ maxInt) :
    ∃ s, (readAll content spare).slice lo hi = some s ∧ s.len = (hi - lo).toNat ∧
      s.bytes = ((content ++ List.replicate spare 0).drop lo.toNat).take (hi - lo).toNat :=
  ByteSlice.slice_eq_some (by simp only [readAll_cap, maxInt] at h ⊢; omega)

theorem take_drop_append_of_le {content pad : List UInt8} {lo n : ℕ}
    (h : lo + n ≤ content.length) :
    ((content ++ pad).drop lo).take n = (content.drop lo).take n := by
  rw [List.drop_append_of_le_length (by omega), List.take_append_of_le_length (by simp; omega)]

/-- `utils.ReadUint64`: `binary.Read` of a little-endian `uint64` from
`bytes.NewReader(b)`, which sees `b[0:len(b)]` only. The value is returned as
the natural number below `2 ^ 64` it denotes. -/
def readUint64 (b : ByteSlice) : Except String ℕ :=
  if b.len = 0 then .error "EOF"
  else if b.len < 8 then .error "unexpected EOF"
  else .ok (ofLE (b.bytes.take 8))

theorem readUint64_of_le {b : ByteSlice} (h : 8 ≤ b.len) :
    readUint64 b = .ok (ofLE (b.bytes.take 8)) := by
  simp [readUint64, show b.len ≠ 0 by omega, show ¬b.len < 8 by omega]

theorem readUint64_writeUint64 (v : UInt64) (rest : List UInt8) :
    readUint64 ⟨writeUint64 v ++ rest, 8, by simp⟩ = .ok v.toNat := by
  rw [readUint64_of_le le_rfl, ← ofLE_writeUint64]
  simp [ByteSlice.bytes, List.take_left', List.take_of_length_le]

/-- `ReadUint64` and `WriteUint64` are inverse: every `uint64` comes back from
its eight bytes, whatever follows them, and every eight bytes are the encoding
of the value `ReadUint64` reads from them. -/
theorem readUint64_writeUint64_inverse (v : UInt64) (rest : List UInt8) (b : ByteSlice)
    (hb : b.len = 8) :
    readUint64 ⟨writeUint64 v ++ rest, 8, by simp⟩ = .ok v.toNat ∧
      ∃ n, readUint64 b = .ok n ∧ writeUint64 (UInt64.ofNat n) = b.bytes := by
  have hlen : b.bytes.length = 8 := by rw [ByteSlice.length_bytes, hb]
  have hlt : ofLE b.bytes < UInt64.size := by
    simpa only [hlen] using ofLE_lt b.bytes
  refine ⟨readUint64_writeUint64 v rest, ofLE b.bytes, ?_, ?_⟩
  · rw [readUint64_of_le hb.ge, List.take_of_length_le hlen.le]
  · rw [writeUint64, UInt64.toNat_ofNat_of_lt hlt, ← hlen, toLE_ofLE]

theorem readUint64_writeUint64_inverse_zero_high_bytes :
    readUint64 ⟨writeUint64 7 ++ [], 8, by simp⟩ = .ok (7 : UInt64).toNat ∧
      ∃ n, readUint64 ⟨List.replicate 8 0, 8, by simp⟩ = .ok n ∧
        writeUint64 (UInt64.ofNat n) = (⟨List.replicate 8 0, 8, by simp⟩ : ByteSlice).bytes :=
  readUint64_writeUint64_inverse 7 [] ⟨List.replicate 8 0, 8, by simp⟩ rfl

end Scheduler0.Utils
