/-
The parts of the key derivation, each by itself: filling, updating, and the
stream of output blocks.

# Filling

A string is repeated to the next multiple of the block size. Its octets are
those of an endless repetition (`getElem?_fill`), its length is the least
multiple with room for the string (`roundUp_mod`, `length_le_roundUp`,
`roundUp_le`), and it begins with the string itself (`prefix_fill`), so that
strings of one length are filled differently (`fill_inj`). The empty string
is the exception that runs through the proofs: nothing is repeated, and the
next multiple of zero is zero.

# Updating

The working string is whole blocks, salt and password being filled each by
itself, and stays so: an update adds the same number to every block and
writes each sum in as many octets as the block had (`advance_eq`,
`length_advance`). That is what makes it a sum of numbers and not of
misaligned pieces. The number is an output block, repeated to at least the
size of a block; the digest may be shorter or longer than that.

# The stream

The recursion of the stream is on what is still wanted. It stops as soon as
it has enough, before the update that would follow, so the working strings it
makes depend on the length asked for. `workingAt` is the sequence without an
end, and `stream_eq` the law between them: a stream is the output blocks of
as many rounds as it takes, or of more, cut to length. Everything that is
said of derived strings elsewhere (the specification they equal, the shorter
ones that begin the longer, the update in place) is read off this one
equation.
-/
import Pkcs12.KeyStream
import Pkcs12.Proofs.Bytes.Chunks
import Pkcs12.Proofs.Bytes.Numbers

namespace Pkcs12.KeyStream

-- =========================================================== filling

/-- A repeated string starts again whenever it is used up, so that an octet is
found by its position modulo the length. -/
private theorem getElem?_flatten_replicate (data : Bytes) {copies i : Nat}
    (hi : i < copies * data.length) :
    (List.replicate copies data).flatten[i]? = data[i % data.length]? := by
  induction copies generalizing i with
  | zero => simp at hi
  | succ copies ih =>
      rw [List.replicate_succ, List.flatten_cons]
      -- within the first copy, or a copy further on with the position reduced by
      -- one length, which changes nothing modulo the length
      by_cases hlt : i < data.length
      · rw [List.getElem?_append_left hlt, Nat.mod_eq_of_lt hlt]
      · have hle : data.length ≤ i := Nat.le_of_not_lt hlt
        rw [Nat.succ_mul] at hi
        rw [List.getElem?_append_right hle, ih (by omega), ← Nat.mod_eq_sub_mod hle]

theorem roundUp_zero (v : Nat) : roundUp v 0 = 0 := by
  rw [roundUp]
  rcases v with - | v
  · rfl
  · rw [Nat.div_eq_of_lt (by omega), Nat.mul_zero]

/-- There are copies enough to reach the next multiple: one more than the quotient
of the two lengths, rounded down. -/
private theorem roundUp_lt_copies (v : Nat) {length : Nat} (hl : 0 < length) :
    roundUp v length < (roundUp v length / length + 1) * length := by
  have hdiv := Nat.div_add_mod (roundUp v length) length
  have hmod := Nat.mod_lt (roundUp v length) hl
  rw [Nat.succ_mul, Nat.mul_comm]
  omega

theorem length_fill (v : Nat) (data : Bytes) : (fill v data).length = roundUp v data.length := by
  simp only [fill, List.length_take, List.length_flatten, List.map_replicate,
    List.sum_replicate_nat]
  rcases data.length.eq_zero_or_pos with hl | hl
  · rw [hl, roundUp_zero, Nat.zero_min]
  · exact Nat.min_eq_left (Nat.le_of_lt (roundUp_lt_copies v hl))

theorem getElem?_fill {v i : Nat} {data : Bytes} (hi : i < roundUp v data.length) :
    (fill v data)[i]? = data[i % data.length]? := by
  have hl : 0 < data.length := by
    rcases data.length.eq_zero_or_pos with hl | hl
    · rw [hl, roundUp_zero] at hi
      exact absurd hi (Nat.not_lt_zero i)
    · exact hl
  rw [fill, List.getElem?_take_of_lt hi]
  exact getElem?_flatten_replicate data (Nat.lt_trans hi (roundUp_lt_copies v hl))

theorem roundUp_mod (v length : Nat) : roundUp v length % v = 0 := by
  rw [roundUp, Nat.mul_mod_right]

theorem length_le_roundUp {v : Nat} (hv : 0 < v) (length : Nat) : length ≤ roundUp v length := by
  have hdiv := Nat.div_add_mod (length + v - 1) v
  have hmod := Nat.mod_lt (length + v - 1) hv
  rw [roundUp]
  omega

/-- No smaller multiple will do, which with the two laws before makes it the least
one. -/
theorem roundUp_le {v length m : Nat} (hv : 0 < v) (hm : m % v = 0) (hle : length ≤ m) :
    roundUp v length ≤ m := by
  obtain ⟨q, rfl⟩ := Nat.dvd_of_mod_eq_zero hm
  have hquot : (length + v - 1) / v < q + 1 := by
    rw [Nat.div_lt_iff_lt_mul hv, Nat.succ_mul, Nat.mul_comm]
    omega
  exact Nat.mul_le_mul_left v (Nat.le_of_lt_succ hquot)

private theorem blockSize_le_roundUp {v length : Nat} (hv : 0 < v) (hl : 0 < length) :
    v ≤ roundUp v length := by
  have hone : 1 ≤ (length + v - 1) / v := (Nat.one_le_div_iff hv).mpr (by omega)
  calc v = v * 1 := (Nat.mul_one v).symm
    _ ≤ v * ((length + v - 1) / v) := Nat.mul_le_mul_left v hone

/-- What fits into one block fills exactly one. -/
theorem roundUp_of_le {v length : Nat} (hl : 0 < length) (hle : length ≤ v) :
    roundUp v length = v := by
  have hone : (length + v - 1) / v = 1 := by
    rw [Nat.div_eq_iff (by omega)]
    omega
  rw [roundUp, hone, Nat.mul_one]

/-- A string begins what it fills; the first copy is never cut, since the next
multiple is not below the length. -/
theorem prefix_fill {v : Nat} (hv : 0 < v) (data : Bytes) : data <+: fill v data := by
  rw [fill, List.replicate_succ, List.flatten_cons, List.prefix_take_iff]
  exact ⟨List.prefix_append _ _, length_le_roundUp hv data.length⟩

/-- Strings of one length fill differently. -/
theorem fill_inj {v : Nat} (hv : 0 < v) {a b : Bytes} (hl : a.length = b.length)
    (h : fill v a = fill v b) : a = b := by
  obtain ⟨rest, hrest⟩ := prefix_fill hv a
  obtain ⟨rest', hrest'⟩ := prefix_fill hv b
  rw [← hrest, ← hrest'] at h
  exact (List.append_inj h hl).1

-- ========================================================== updating

/-- Every block of the working string is a number, and all are increased by the
same one, without a carry from block to block. -/
theorem advance_eq {v : Nat} (hv : 0 < v) {a i : Bytes} (ha : 0 < a.length)
    (hi : i.length % v = 0) :
    advance v a i
      = (Bytes.chunks v i).flatMap fun block =>
          Bytes.ofNat v (Bytes.toNat block + Bytes.toNat (fill v a) + 1) := by
  rw [advance, List.flatMap_def, List.flatMap_def]
  congr 1
  apply List.map_congr_left
  intro block hblock
  have hlen := Bytes.length_of_mem_chunks hi block hblock
  -- the schoolbook sum asks that the block is not longer than what is added
  have hle : block.length ≤ (fill v a).length := by
    rw [hlen, length_fill]
    exact blockSize_le_roundUp hv ha
  rw [Bytes.addSucc_eq hle, hlen]

/-- The working string keeps its length, as each block is written in as many
octets as it was read from. -/
theorem length_advance {v : Nat} (hv : 0 < v) {a i : Bytes} (ha : 0 < a.length)
    (hi : i.length % v = 0) : (advance v a i).length = i.length := by
  have hsame (block : Bytes) :
      (Bytes.ofNat v (Bytes.toNat block + Bytes.toNat (fill v a) + 1)).length = v :=
    Bytes.length_ofNat _ _
  rw [advance_eq hv ha hi, List.flatMap_def, Bytes.length_flatten_of_pieces (n := v) (by
    intro p hp
    obtain ⟨block, -, rfl⟩ := List.mem_map.mp hp
    exact hsame block), List.length_map, Bytes.length_chunks (Nat.ne_of_gt hv) hi]

-- ========================================================== the stream

/-- The working string starts as whole blocks. -/
theorem initial_mod (v : Nat) (salt password : Bytes) :
    (initial v salt password).length % v = 0 := by
  rw [initial, List.length_append, length_fill, length_fill, Nat.add_mod, roundUp_mod,
    roundUp_mod, Nat.add_zero, Nat.zero_mod]

section Steps

variable {h : Hash} {v extra want : Nat} {d i : Bytes}

/-- What one output block suffices for. -/
theorem stream_of_le (hle : want ≤ h.digestSize) :
    stream h v extra d want i = (h.iterate (extra + 1) (d ++ i)).take want := by
  rw [stream]
  by_cases hzero : want = 0
  · rw [dif_pos hzero, hzero, List.take_zero]
  · rw [dif_neg hzero]
    exact if_pos hle

/-- What needs more starts with a whole output block. -/
theorem stream_of_lt (hlt : h.digestSize < want) :
    stream h v extra d want i
      = h.iterate (extra + 1) (d ++ i)
        ++ stream h v extra d (want - h.digestSize)
            (advance v (h.iterate (extra + 1) (d ++ i)) i) := by
  rw [stream, dif_neg (by omega)]
  exact if_neg (Nat.not_le_of_lt hlt)

end Steps

/-- The working string of output block `k`, counted from zero: the sequence of
updates without regard to how many of them a stream needs. -/
def workingAt (h : Hash) (v extra : Nat) (d i : Bytes) : Nat → Bytes
  | 0 => i
  | k + 1 =>
    let w := workingAt h v extra d i k
    advance v (h.iterate (extra + 1) (d ++ w)) w

section Rounds

variable (h : Hash) {v : Nat} (extra : Nat) (d : Bytes) {i : Bytes}

/-- An update changes neither the length of the working string nor that it is
whole blocks, so every round finds both as the first one did. This is the
invariant of the stream, by induction on the round. -/
theorem length_workingAt (hv : 0 < v) (hi : i.length % v = 0) (k : Nat) :
    (workingAt h v extra d i k).length = i.length := by
  induction k with
  | zero => rfl
  | succ k ih =>
      have hout : 0 < (h.iterate (extra + 1) (d ++ workingAt h v extra d i k)).length := by
        rw [Hash.length_iterate_succ]
        exact h.digestSize_pos
      rw [workingAt, length_advance hv hout (by rw [ih]; exact hi), ih]

variable {h extra d}

/-- From working string `k` on, the stream is output blocks, as many as it takes,
cut to what is wanted. The induction is on the number of blocks, with the
round and what is still wanted generalised: the stream itself goes by what is
wanted, but its rounds are counted from the front. -/
private theorem stream_workingAt {want count : Nat} (hcount : want ≤ count * h.digestSize)
    (k : Nat) :
    stream h v extra d want (workingAt h v extra d i k)
      = ((List.range' k count).flatMap fun j =>
          h.iterate (extra + 1) (d ++ workingAt h v extra d i j)).take want := by
  induction count generalizing want k with
  | zero =>
      rw [Nat.zero_mul, Nat.le_zero] at hcount
      rw [hcount, stream_of_le (Nat.zero_le _), List.take_zero, List.take_zero]
  | succ count ih =>
      have hlen := Hash.length_iterate_succ h extra (d ++ workingAt h v extra d i k)
      rw [Nat.succ_mul] at hcount
      rw [List.range'_succ, List.flatMap_cons, List.take_append]
      rcases Nat.lt_or_ge h.digestSize want with hmore | hlast
      · rw [stream_of_lt hmore, List.take_of_length_le (by omega), hlen, ← ih (by omega)]
        rfl
      · -- the last block is cut, and of those after it nothing is left
        rw [stream_of_le hlast, hlen, Nat.sub_eq_zero_of_le hlast, List.take_zero,
          List.append_nil]

/-- A stream is the output blocks of its rounds, as many as it takes, cut to
length. -/
theorem stream_eq {want count : Nat} (hcount : want ≤ count * h.digestSize) :
    stream h v extra d want i
      = ((List.range count).flatMap fun k =>
          h.iterate (extra + 1) (d ++ workingAt h v extra d i k)).take want := by
  rw [List.range_eq_range']
  exact stream_workingAt hcount 0

end Rounds

/-- The stream ends where it should, by the recursion of the stream itself: this
needs no hypothesis on block size or working string. -/
theorem length_stream (h : Hash) (v extra : Nat) (d : Bytes) (want : Nat) (i : Bytes) :
    (stream h v extra d want i).length = want := by
  induction want, i using stream.induct h v extra d with
  | case1 i => rw [stream, dif_pos rfl, List.length_nil]
  | case2 want i hne hle =>
      rw [stream, dif_neg hne, if_pos hle, List.length_take, Hash.length_iterate_succ]
      omega
  | case3 want i hne a hgt ih =>
      rw [stream, dif_neg hne, if_neg hgt, List.length_append, ih, Hash.length_iterate_succ]
      omega

theorem length_derive (h : Hash) (v : Nat) (salt password : Bytes) (iterations : Nat)
    (purpose : Purpose) (length : Nat) :
    (derive h v salt password iterations purpose length).length = length :=
  length_stream ..

end Pkcs12.KeyStream
