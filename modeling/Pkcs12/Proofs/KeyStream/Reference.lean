/-
The key derivation as it is specified, and that the stream computes it.

# The specification

`Reference` is an infinite sequence of working strings, each made from the one
before by adding the output block, and the output blocks read off it; nothing
is skipped and nothing is computed on demand. It is written with numbers and
positions: a filled string is a list of octets by their index, an update is a
sum modulo a power of two for each block, and the hash is iterated from the
outside. It shares no definition with the stream but the hash function and
the octets of a number, so an error in the one is not repeated in the other.

# The proof

Part by part, in the order of the definitions:

- filling is cyclic repetition (`fill_eq_cyclic`, `fill_eq_filled`), with the
  two ways of rounding up shown equal;
- an update is the one of the specification if the digest fits into a block
  (`advance_eq_increased`). The specification repeats the output block to
  exactly one block, the stream to whole blocks, and for longer digests these
  are different numbers;
- iterating from the inside or from the outside is the same
  (`iterate_eq_repeat`).

The stream stops as soon as it has enough, before the update that would
follow; that it is output blocks cut to length all the same is known of it
already (`stream_eq`). What is left is that the working strings of its rounds
are those of the sequence: `working_eq`, by induction on the round, with the
length of the working string as the invariant.
-/
import Pkcs12.Proofs.KeyStream.Stream

namespace Pkcs12.KeyStream

namespace Reference

-- ====================================================== specification

/-- The quotient, rounded up. -/
def ceilDiv (n d : Nat) : Nat :=
  n / d + if n % d = 0 then 0 else 1

/-- The first `length` octets of an endless repetition. -/
def cyclic (data : Bytes) (length : Nat) : Bytes :=
  (List.range length).map fun k => data.getD (k % data.length) 0

/-- A string repeated to the next multiple of `v` octets. -/
def filled (v : Nat) (data : Bytes) : Bytes :=
  cyclic data (v * ceilDiv data.length v)

/-- Block `j` of `v` octets. -/
def block (v j : Nat) (data : Bytes) : Bytes :=
  (data.drop (v * j)).take v

/-- Every block of `i` increased by `b` and one, modulo `2 ^ (8 * v)`. -/
def increased (v : Nat) (b i : Bytes) : Bytes :=
  (List.range (i.length / v)).flatMap fun j =>
    Bytes.ofNat v ((Bytes.toNat (block v j i) + Bytes.toNat b + 1) % 2 ^ (8 * v))

variable (h : Hash) (v : Nat) (salt password : Bytes) (iterations : Nat) (purpose : Purpose)

/-- The output block of a working string: the hash, iterated, of the
diversifier and the string. -/
def output (i : Bytes) : Bytes :=
  Nat.repeat h.digest iterations (List.replicate v purpose.octet ++ i)

/-- The working string of output block `k`, counted from zero. -/
def working : Nat → Bytes
  | 0 => filled v salt ++ filled v password
  | k + 1 =>
    let i := working k
    increased v (cyclic (output h v iterations purpose i) v) i

/-- The derived string: the first `length` octets of as many output blocks
as that takes. -/
def derived (length : Nat) : Bytes :=
  ((List.range (ceilDiv length h.digestSize)).flatMap fun k =>
    output h v iterations purpose (working h v salt password iterations purpose k)).take length

end Reference

-- ============================================================= filling

/-- Both ways to the next multiple: adding almost a whole divisor before the
division, or one after it unless it goes even. -/
private theorem roundUp_eq {v : Nat} (hv : 0 < v) (length : Nat) :
    roundUp v length = v * Reference.ceilDiv length v := by
  have hdiv := Nat.div_add_mod length v
  have hmod := Nat.mod_lt length hv
  have hquot : (length + v - 1) / v = Reference.ceilDiv length v := by
    rw [Reference.ceilDiv]
    by_cases hzero : length % v = 0
    · rw [if_pos hzero, Nat.div_eq_iff hv, Nat.add_zero, Nat.mul_comm]
      omega
    · rw [if_neg hzero, Nat.div_eq_iff hv, Nat.succ_mul, Nat.mul_comm]
      omega
  rw [roundUp, hquot]

private theorem le_ceilDiv_mul {u : Nat} (hu : 0 < u) (n : Nat) :
    n ≤ Reference.ceilDiv n u * u := by
  rw [Nat.mul_comm, ← roundUp_eq hu]
  exact length_le_roundUp hu n

theorem fill_eq_cyclic (v : Nat) (data : Bytes) :
    fill v data = Reference.cyclic data (roundUp v data.length) := by
  apply List.ext_getElem?
  intro k
  by_cases hk : k < roundUp v data.length
  · have hl : 0 < data.length := by
      rcases data.length.eq_zero_or_pos with hl | hl
      · rw [hl, roundUp_zero] at hk
        exact absurd hk (Nat.not_lt_zero k)
      · exact hl
    have hmod := Nat.mod_lt k hl
    rw [getElem?_fill hk, Reference.cyclic, List.getElem?_map, List.getElem?_range hk,
      Option.map_some, List.getD_eq_getElem?_getD, List.getElem?_eq_getElem hmod,
      Option.getD_some]
  · have hle := Nat.le_of_not_lt hk
    rw [List.getElem?_eq_none (by rw [length_fill]; exact hle), Reference.cyclic,
      List.getElem?_eq_none (by rw [List.length_map, List.length_range]; exact hle)]

theorem fill_eq_filled {v : Nat} (hv : 0 < v) (data : Bytes) :
    fill v data = Reference.filled v data := by
  rw [fill_eq_cyclic, Reference.filled, roundUp_eq hv]

-- ============================================================ updating

/-- An update by an output block that fits into a hash block. Reducing the sum
before it is written, as the specification does, is what writing does anyway. -/
theorem advance_eq_increased {v : Nat} {a i : Bytes} (ha : 0 < a.length) (hle : a.length ≤ v)
    (hi : i.length % v = 0) :
    advance v a i = Reference.increased v (Reference.cyclic a v) i := by
  have hv : 0 < v := by omega
  have hpow : 2 ^ (8 * v) = 256 ^ v := by rw [Nat.pow_mul]
  rw [advance_eq hv ha hi, Bytes.chunks_eq_map_block (Nat.ne_of_gt hv) hi, Reference.increased,
    List.flatMap_def, List.flatMap_def, List.map_map, fill_eq_cyclic, roundUp_of_le ha hle, hpow]
  -- the same blocks by position on both sides, so compare one of them
  congr 1
  apply List.map_congr_left
  intro j _
  rw [Bytes.ofNat_mod]
  rfl

-- ========================================================== the stream

/-- Hashing the first time or the last time first. By induction on the rounds,
with the shift of one hash from the inside to the outside as its own
induction. -/
theorem iterate_eq_repeat (h : Hash) (rounds : Nat) (m : Bytes) :
    h.iterate rounds m = Nat.repeat h.digest rounds m := by
  have hshift (n : Nat) (m : Bytes) :
      Nat.repeat h.digest n (h.digest m) = h.digest (Nat.repeat h.digest n m) := by
    induction n with
    | zero => rfl
    | succ n ih =>
        show h.digest (Nat.repeat h.digest n (h.digest m)) = _
        rw [ih]
        rfl
  induction rounds generalizing m with
  | zero => rfl
  | succ rounds ih =>
      show h.iterate rounds (h.digest m) = h.digest (Nat.repeat h.digest rounds m)
      rw [ih, hshift]

section Stream

variable {h : Hash} {v : Nat} {salt password : Bytes} {iterations : Nat} {purpose : Purpose}

/-- An output block is the hash that the stream takes: at least one round, which
the stream counts apart from the others. -/
theorem output_eq (hr : 1 ≤ iterations) (i : Bytes) :
    Reference.output h v iterations purpose i
      = h.iterate (iterations - 1 + 1) (diversifier v purpose ++ i) := by
  rw [iterate_eq_repeat, Nat.sub_add_cancel hr]
  rfl

/-- The working strings of the specification are those of the stream. The step
needs that the stream's string is whole blocks, and the block of the round
nothing but its length. -/
theorem working_eq (hle : h.digestSize ≤ v) (hr : 1 ≤ iterations) (k : Nat) :
    Reference.working h v salt password iterations purpose k
      = workingAt h v (iterations - 1) (diversifier v purpose) (initial v salt password) k := by
  have hu := h.digestSize_pos
  have hv : 0 < v := by omega
  induction k with
  | zero =>
      rw [Reference.working, ← fill_eq_filled hv, ← fill_eq_filled hv]
      rfl
  | succ k ih =>
      have hmod := initial_mod v salt password
      have hlen := length_workingAt h (iterations - 1) (diversifier v purpose) hv hmod k
      rw [← hlen] at hmod
      have hout := Hash.length_iterate_succ h (iterations - 1)
        (diversifier v purpose
          ++ workingAt h v (iterations - 1) (diversifier v purpose) (initial v salt password) k)
      rw [Reference.working, ih, output_eq hr,
        ← advance_eq_increased (by omega) (by omega) hmod]
      rfl

end Stream

-- ==================================================== the derivation

private theorem ofInt?_octet (purpose : Purpose) :
    Purpose.ofInt? purpose.octet.toNat = some purpose := by
  cases purpose <;> rfl

section Derivation

variable {h : Hash} {v : Nat} {salt password : Bytes} {iterations : Nat} {purpose : Purpose}
  {length : Nat}

theorem derive_eq (hle : h.digestSize ≤ v) (hr : 1 ≤ iterations) :
    derive h v salt password iterations purpose length
      = Reference.derived h v salt password iterations purpose length := by
  rw [derive, stream_eq (le_ceilDiv_mul h.digestSize_pos length), Reference.derived]
  simp only [working_eq hle hr, output_eq hr]

/-- A request that is in order is answered by the derivation. None of the checks
before it can fail, and a request for no octets, which is answered without a
derivation, is answered like one. -/
theorem answer_eq {memory : Memory} {hash : Text} {name : String} (hv : 0 < v)
    (hmem : v ≤ memory.octets) (hr : 1 ≤ iterations)
    (hname : Request.function ⟨hash, v, h.digestSize, salt, password, iterations,
      purpose.octet.toNat, length⟩ = .ok (name, h)) :
    Request.answer memory ⟨hash, v, h.digestSize, salt, password, iterations,
        purpose.octet.toNat, length⟩
      = .ok (derive h v salt password iterations purpose length) := by
  have hfault : Request.blockFault memory ⟨hash, v, h.digestSize, salt, password, iterations,
      purpose.octet.toNat, length⟩ h = none := by
    -- what fits into memory is not too wide
    have hwide : ((2 ^ 62 : Nat) : Int) ≤ widestBlock := by decide
    have hle := memory.octets_le
    simp only [Request.blockFault]
    rw [if_neg (by omega), if_neg (by omega), if_neg (by omega), if_neg (by omega)]
  rw [Request.answer]
  simp only [ofInt?_octet, hname, hfault]
  rw [if_neg (by omega), if_neg (by omega), if_neg (not_not_intro rfl)]
  by_cases hzero : length = 0
  · rw [if_pos (by omega), derive, hzero, stream_of_le (Nat.zero_le _), List.take_zero]
  · rw [if_neg (by omega)]
    rfl

end Derivation

/-- The key derivation is the one that is specified, for every hash function
whose digests fit into a hash block, and a request for it by the name of the
hash function is answered with it as long as there is memory for a hash
block. -/
theorem derive_eq_reference (h : Hash) (v : Nat) (hle : h.digestSize ≤ v) (salt password : Bytes)
    (iterations : Nat) (hr : 1 ≤ iterations) (purpose : Purpose) (length : Nat) :
    derive h v salt password iterations purpose length
        = Reference.derived h v salt password iterations purpose length
      ∧ ∀ (memory : Memory) (hash : Text) (name : String),
          Request.function ⟨hash, v, h.digestSize, salt, password, iterations,
            purpose.octet.toNat, length⟩ = .ok (name, h) →
          v ≤ memory.octets →
          Request.answer memory ⟨hash, v, h.digestSize, salt, password, iterations,
              purpose.octet.toNat, length⟩
            = .ok (Reference.derived h v salt password iterations purpose length) := by
  refine ⟨derive_eq hle hr, ?_⟩
  intro memory hash name hname hmem
  have hv : 0 < v := Nat.lt_of_lt_of_le h.digestSize_pos hle
  rw [answer_eq hv hmem hr hname, derive_eq hle hr]

/-- Forty-five octets of SHA-1 take three output blocks and two updates. -/
theorem derive_eq_reference_sha1 :
    Hash.sha1.digestSize ≤ 64 ∧ 1 ≤ 2
      ∧ derive Hash.sha1 64 [0xFF] [0, 0] 2 .iv 45
        = Reference.derived Hash.sha1 64 [0xFF] [0, 0] 2 .iv 45
      ∧ Request.answer .common ⟨Text.ofString "sha1", 64, 20, [0xFF], [0, 0], 2, 2, 45⟩
        = .ok (Reference.derived Hash.sha1 64 [0xFF] [0, 0] 2 .iv 45) := by
  have hle : Hash.sha1.digestSize ≤ 64 := by decide
  have hr : 1 ≤ 2 := by decide
  obtain ⟨hderive, hanswer⟩ :=
    derive_eq_reference Hash.sha1 64 hle [0xFF] [0, 0] 2 hr .iv 45
  have htext : (Text.ofString "sha1").toString? = some "sha1" :=
    Text.toString?_eq_some_iff.2 rfl
  have hlower : "sha1".toLower = "sha1" := by decide +kernel
  refine ⟨hle, hr, hderive, hanswer _ (Text.ofString "sha1") "sha1" ?_ (by decide)⟩
  simp [Request.function, htext, Hash.ofName?, Hash.named, hlower]

end Pkcs12.KeyStream
