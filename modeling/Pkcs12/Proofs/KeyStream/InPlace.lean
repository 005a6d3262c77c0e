/-
The update of the working string in one buffer, pass by pass, and that it is
the update of the stream.

# A pass

A pass reads the block at its offset as a number, increases it, reduces it to
what `v` octets hold and writes it back; the offsets are those of the blocks
before anything was written. Writing replaces a slice by octets of any
number, so a block that was not written in exactly `v` octets would move all
blocks behind it away from their offsets, and a number that was not reduced
could not be written at all. `pass` answers nothing in that case, and
`splice` makes no assumption on the lengths: neither is excluded by the
definitions.

# The invariant

After `k` passes the buffer is `k` increased blocks and then what it was
before, `front v b k i ++ i.drop (v * k)`. That form gives the next pass its
block where it was at the start, and the pass rewrites the form for `k` into
the one for `k + 1` (`pass_front`). From it `passes_eq`, by induction on the
number of passes: no pass fails, the buffer keeps its length, and what lies
beyond the passes is unchanged. This holds of every number that is added,
hence also of digests longer than a block.

# Rounds

On whole blocks the passes end at the end of the buffer, and the increased
blocks are those of `advance` (`update_eq`). The working strings of a
derivation are whole blocks in every round, so each is made from the one
before in place (`update_workingAt`).
-/
import Pkcs12.Proofs.KeyStream.Stream

namespace Pkcs12

-- ============================================================ writing

namespace Bytes

/-- A number in exactly `v` octets, most significant first. There is none
for a number that takes more. -/
def ofNat? (v n : Nat) : Option Bytes :=
  if n < 256 ^ v then some (ofNat v n) else none

/-- The octets from `start` to before `stop` replaced by others, of which
there may be more or fewer. -/
def splice (start stop : Nat) (written buffer : Bytes) : Bytes :=
  buffer.take start ++ written ++ buffer.drop stop

/-- A reduced number fits, so it can always be written. -/
private theorem ofNat?_mod (v n : Nat) : ofNat? v (n % 256 ^ v) = some (ofNat v n) := by
  have hlt : n % 256 ^ v < 256 ^ v := Nat.mod_lt n (Nat.pow_pos (by decide))
  rw [ofNat?, if_pos hlt, ofNat_mod]

end Bytes

namespace KeyStream

namespace InPlace

-- ============================================================= passes

/-- Increases the block at an offset by `b`, modulo `256 ^ v`. -/
def pass (v b offset : Nat) (buffer : Bytes) : Option Bytes :=
  let block := (buffer.drop offset).take v
  let sum := (Bytes.toNat block + b) % 256 ^ v
  (Bytes.ofNat? v sum).map fun written => Bytes.splice offset (offset + v) written buffer

/-- The buffer after the first `k` passes, which are at the offsets `0`,
`v`, `2 * v` and so on. -/
def passes (v b : Nat) : Nat → Bytes → Option Bytes
  | 0, buffer => some buffer
  | k + 1, buffer => passes v b k buffer >>= pass v b (v * k)

/-- The update by an output block: a pass for each offset within the
buffer. -/
def update (v : Nat) (a buffer : Bytes) : Option Bytes :=
  passes v (Bytes.toNat (fill v a) + 1) ((buffer.length + v - 1) / v) buffer

/-- The first `k` blocks, each increased by `b`, read from the string as it was
before any pass. -/
def front (v b k : Nat) (i : Bytes) : Bytes :=
  (List.range k).flatMap fun j => Bytes.ofNat v (Bytes.toNat (Bytes.block v j i) + b)

variable {v b : Nat} {i : Bytes}

private theorem length_front (v b k : Nat) (i : Bytes) : (front v b k i).length = v * k := by
  have hpieces : ∀ p ∈ (List.range k).map fun j =>
      Bytes.ofNat v (Bytes.toNat (Bytes.block v j i) + b), p.length = v := by
    intro p hp
    obtain ⟨j, -, rfl⟩ := List.mem_map.mp hp
    exact Bytes.length_ofNat _ _
  rw [front, List.flatMap_def, Bytes.length_flatten_of_pieces hpieces, List.length_map,
    List.length_range]

private theorem front_succ (v b k : Nat) (i : Bytes) :
    front v b (k + 1) i
      = front v b k i ++ Bytes.ofNat v (Bytes.toNat (Bytes.block v k i) + b) := by
  rw [front, List.range_succ, List.flatMap_append, List.flatMap_singleton, front]

/-- A pass finds its block where it was and puts another in its place. The passes
before it have written as many octets as they have read, which is why the
offset is still the right one. -/
private theorem pass_front (v b k : Nat) (i : Bytes) :
    pass v b (v * k) (front v b k i ++ i.drop (v * k))
      = some (front v b (k + 1) i ++ i.drop (v * (k + 1))) := by
  have hlen := length_front v b k i
  -- reading: the increased blocks in front are v * k octets, so the slice
  -- starts right behind them
  have hblock : ((front v b k i ++ i.drop (v * k)).drop (v * k)).take v = Bytes.block v k i := by
    rw [List.drop_left' hlen, Bytes.block]
  -- writing: what stands behind the slice is what the next pass starts from
  have hrest : (front v b k i ++ i.drop (v * k)).drop (v * k + v) = i.drop (v * (k + 1)) := by
    rw [← List.drop_drop, List.drop_left' hlen, List.drop_drop, Nat.mul_succ]
  unfold pass
  simp only [hblock, Bytes.ofNat?_mod, Option.map_some]
  rw [Bytes.splice, List.take_left' hlen, hrest, front_succ]

/-- No pass fails, and what it has not reached is as it was. -/
theorem passes_eq (v b k : Nat) (i : Bytes) :
    passes v b k i = some (front v b k i ++ i.drop (v * k)) := by
  induction k with
  | zero => rfl
  | succ k ih =>
      rw [passes, ih]
      exact pass_front v b k i

/-- As long as the passes are within the buffer, it keeps its length, and is what
it was beyond them. -/
private theorem exists_passes {k : Nat} (hk : v * k ≤ i.length) :
    ∃ buffer, passes v b k i = some buffer ∧ buffer.length = i.length
      ∧ buffer.drop (v * k) = i.drop (v * k) := by
  have hlen := length_front v b k i
  refine ⟨_, passes_eq v b k i, ?_, List.drop_left' hlen⟩
  rw [List.length_append, hlen, List.length_drop]
  omega

-- ============================================================= updates

variable {a : Bytes}

/-- Over whole blocks, the passes reach every block and nothing else. -/
private theorem update_eq_front (hv : 0 < v) (hi : i.length % v = 0) :
    update v a i = some (front v (Bytes.toNat (fill v a) + 1) (i.length / v) i) := by
  have hdvd := Nat.dvd_of_mod_eq_zero hi
  have hcount : (i.length + v - 1) / v = i.length / v := by
    obtain ⟨q, hq⟩ := hdvd
    rw [hq, Nat.mul_div_cancel_left _ hv, Nat.div_eq_iff hv, Nat.mul_comm]
    omega
  rw [update, hcount, passes_eq, Nat.mul_div_cancel' hdvd, List.drop_length, List.append_nil]

/-- An update in place never fails and keeps the length of the buffer. -/
private theorem exists_update (hv : 0 < v) (hi : i.length % v = 0) :
    ∃ buffer, update v a i = some buffer ∧ buffer.length = i.length := by
  refine ⟨_, update_eq_front hv hi, ?_⟩
  rw [length_front, Nat.mul_div_cancel' (Nat.dvd_of_mod_eq_zero hi)]

/-- The update in place is that of the stream. -/
theorem update_eq (hv : 0 < v) (ha : 0 < a.length) (hi : i.length % v = 0) :
    update v a i = some (advance v a i) := by
  rw [update_eq_front hv hi, advance_eq hv ha hi,
    Bytes.chunks_eq_map_block (Nat.ne_of_gt hv) hi, List.flatMap_map]
  rfl

-- a string that is not whole blocks would grow, and its last block with it
example : (update 2 [0] [0, 0, 0]).map List.length = some 4 := by decide

end InPlace

-- ====================================================== all together

/-- The next working string is the update in place of the one before, since every
working string is whole blocks and every output block has octets. -/
private theorem update_workingAt (h : Hash) {v : Nat} (hv : 0 < v) (extra : Nat) (d : Bytes)
    {i : Bytes}
    (hi : i.length % v = 0) (k : Nat) :
    InPlace.update v (h.iterate (extra + 1) (d ++ workingAt h v extra d i k))
        (workingAt h v extra d i k)
      = some (workingAt h v extra d i (k + 1)) := by
  have hmod : (workingAt h v extra d i k).length % v = 0 := by
    rw [length_workingAt h extra d hv hi]
    exact hi
  have hout : 0 < (h.iterate (extra + 1) (d ++ workingAt h v extra d i k)).length := by
    rw [Hash.length_iterate_succ]
    exact h.digestSize_pos
  exact InPlace.update_eq hv hout hmod

/-- Filling is cyclic repetition to the least multiple of the block size
that has room for the string, and nothing if there is nothing to repeat. On
whole blocks an update can be done in one buffer, by whatever output block:
each pass writes a number that fits, the buffer keeps its length and is
unchanged where the passes have not been, and the result is the update of
the stream. So it is in every round of a derivation with any hash function:
its working strings start filled, each is made from the one before in place
by the output block, and all are whole blocks of one length; the derived
string is their output blocks, cut to length. -/
theorem filled_and_updated_in_whole_blocks {v : Nat} (hv : 1 ≤ v) :
    fill v [] = []
      ∧ (∀ data : Bytes, data ≠ [] →
          (fill v data).length % v = 0 ∧ data.length ≤ (fill v data).length
          ∧ (∀ m, m % v = 0 → data.length ≤ m → (fill v data).length ≤ m)
          ∧ ∀ j < (fill v data).length, (fill v data)[j]? = data[j % data.length]?)
      ∧ (∀ a i : Bytes, i.length % v = 0 →
          (∀ k, v * k ≤ i.length →
              ∃ buffer, InPlace.passes v (Bytes.toNat (fill v a) + 1) k i = some buffer
                ∧ buffer.length = i.length ∧ buffer.drop (v * k) = i.drop (v * k))
          ∧ (∃ buffer, InPlace.update v a i = some buffer ∧ buffer.length = i.length)
          ∧ (a ≠ [] → InPlace.update v a i = some (advance v a i)))
      ∧ ∀ (h : Hash) (salt password : Bytes) (iterations : Nat) (purpose : Purpose),
          1 ≤ iterations →
          ∃ w : Nat → Bytes,
            w 0 = initial v salt password
            ∧ (∀ k, (w k).length % v = 0 ∧ (w k).length = (w 0).length
                ∧ InPlace.update v (h.iterate iterations (diversifier v purpose ++ w k)) (w k)
                  = some (w (k + 1)))
            ∧ ∀ length count, length ≤ count * h.digestSize →
                derive h v salt password iterations purpose length
                  = ((List.range count).flatMap fun k =>
                      h.iterate iterations (diversifier v purpose ++ w k)).take length := by
  refine ⟨?empty, ?filled, ?updated, ?rounds⟩
  case empty =>
    apply List.eq_nil_of_length_eq_zero
    rw [length_fill, List.length_nil, roundUp_zero]
  case filled =>
    intro data _
    rw [length_fill]
    exact ⟨roundUp_mod v _, length_le_roundUp hv _, fun m hm hle => roundUp_le hv hm hle,
      fun j hj => getElem?_fill hj⟩
  case updated =>
    intro a i hi
    exact ⟨fun k hk => InPlace.exists_passes hk, InPlace.exists_update hv hi,
      fun ha => InPlace.update_eq hv (List.length_pos_iff.mpr ha) hi⟩
  case rounds =>
    intro h salt password iterations purpose hr
    obtain ⟨extra, rfl⟩ : ∃ extra, iterations = extra + 1 := ⟨iterations - 1, by omega⟩
    have hi := initial_mod v salt password
    refine ⟨workingAt h v extra (diversifier v purpose) (initial v salt password), rfl, ?_, ?_⟩
    · intro k
      have hlen := length_workingAt h extra (diversifier v purpose) hv hi k
      exact ⟨by rw [hlen]; exact hi, hlen, update_workingAt h hv extra _ hi k⟩
    · intro length count hcount
      rw [derive, Nat.add_sub_cancel, stream_eq hcount]

/-- Hash blocks of eight octets, which no digest of SHA-1 fits into. -/
theorem filled_and_updated_in_whole_blocks_sha1 :
    1 ≤ 8 ∧ 8 < Hash.sha1.digestSize
      ∧ (fill 8 [1, 2, 3])[7]? = some 2
      ∧ InPlace.update 8 (List.replicate 20 0xFF) (List.replicate 16 7)
        = some (advance 8 (List.replicate 20 0xFF) (List.replicate 16 7))
      ∧ ∃ w : Nat → Bytes,
          w 0 = initial 8 [0xFF] [0, 0]
          ∧ (w 2).length = 16
          ∧ InPlace.update 8 (Hash.sha1.iterate 3 (diversifier 8 .iv ++ w 2)) (w 2) = some (w 3)
          ∧ derive Hash.sha1 8 [0xFF] [0, 0] 3 .iv 45
            = ((List.range 3).flatMap fun k =>
                Hash.sha1.iterate 3 (diversifier 8 .iv ++ w k)).take 45 := by
  have hv : 1 ≤ 8 := by decide
  obtain ⟨-, hfilled, hupdated, hrounds⟩ := filled_and_updated_in_whole_blocks hv
  obtain ⟨-, -, -, hcyclic⟩ := hfilled [1, 2, 3] (by decide)
  obtain ⟨-, -, hupdate⟩ := hupdated (List.replicate 20 0xFF) (List.replicate 16 7) (by decide)
  obtain ⟨w, hstart, hround, hderive⟩ := hrounds Hash.sha1 [0xFF] [0, 0] 3 .iv (by decide)
  obtain ⟨-, hlen, hnext⟩ := hround 2
  refine ⟨hv, by decide, hcyclic 7 (by decide), hupdate (by decide), w, hstart, ?_, hnext,
    hderive 45 3 (by decide)⟩
  rw [hlen, hstart]
  decide

end KeyStream

end Pkcs12
