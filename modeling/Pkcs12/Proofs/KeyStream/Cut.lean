/-
A derived string is a stream, cut to length: the shorter string is a beginning
of the longer one.

# The stream

A longer request makes the same output blocks and goes on where a shorter one
stops. The shorter one ends without the update of the working string that the
longer one makes there, so the two recursions do not simply run alongside
each other. But both are cut from the output blocks of one sequence of
working strings (`stream_eq`, with enough blocks for both), and cutting twice
is cutting to the smaller length. No induction is left for this file.

# The request

A checked request can fail in many ways. None of them depends on the length as
long as it is not negative and hash blocks have a size:
`answer_of_blockSize_pos` goes through the checks in their order and finds for
each request either one error for all lengths or one stream for all lengths.
With blocks of no size this fails, since there a request for more than one
digest needs an update and a shorter one does not.

# The schemes

Both encryption schemes derive over SHA-1 and with the same block size, and
the purpose alone separates key from initial vector. So the short RC2 key is
the beginning of the long triple DES key, and the initial vectors are equal
(`key_iv_of_schemes`).
-/
import Pkcs12.Proofs.Encryption.Keyed
import Pkcs12.Proofs.KeyStream.Reference
import Pkcs12.Proofs.Settings

namespace Pkcs12.KeyStream

-- ========================================================= the stream

section Stream

variable {h : Hash} {v extra : Nat} {d i : Bytes}

/-- A shorter stream is a beginning of a longer one: both are cut from the same
output blocks. -/
theorem stream_eq_take {n m : Nat} (hnm : n ≤ m) :
    stream h v extra d n i = (stream h v extra d m i).take n := by
  -- the output blocks that the longer one takes are enough for both
  have hm : m ≤ m * h.digestSize := Nat.le_mul_of_pos_right m h.digestSize_pos
  rw [stream_eq (Nat.le_trans hnm hm), stream_eq hm, List.take_take, Nat.min_eq_left hnm]

theorem derive_eq_take (salt password : Bytes) (iterations : Nat) (purpose : Purpose) {n m : Nat}
    (hnm : n ≤ m) :
    derive h v salt password iterations purpose n
      = (derive h v salt password iterations purpose m).take n :=
  stream_eq_take hnm

end Stream

-- ======================================================== the request

/-- A request with hash blocks of some size goes wrong at every length, in the
same way, or at none. A request for no octets is the one that is answered
without a derivation; the answer is that of an empty stream. -/
private theorem answer_of_blockSize_pos (memory : Memory) (r : Request) (hv : 1 ≤ r.blockSize) :
    (∃ e, ∀ n : Nat, Request.answer memory { r with length := n } = .error e)
      ∨ ∃ h purpose, ∀ n : Nat, Request.answer memory { r with length := n }
          = .ok (derive h r.blockSize.toNat r.salt r.password r.iterations.toNat purpose n) := by
  have hlength (n : Nat) : ¬ (n : Int) < 0 := by omega
  have hfunction (n : Nat) : Request.function { r with length := n } = r.function := rfl
  have hfault (h : Hash) (n : Nat) :
      Request.blockFault memory { r with length := n } h = r.blockFault memory h := by
    unfold Request.blockFault
    have hzero : r.blockSize ≠ 0 := by omega
    simp only [hzero, false_and, if_false]
  -- from here on one check after the other, each with the error it answers
  -- or the rest of the checks
  unfold Request.answer
  simp only [hlength, hfunction, hfault, if_false]
  cases Purpose.ofInt? r.purpose with
  | none => exact Or.inl ⟨_, fun _ => rfl⟩
  | some purpose =>
      by_cases hcount : r.iterations < 1
      · simp only [if_pos hcount]
        exact Or.inl ⟨_, fun _ => rfl⟩
      · simp only [if_neg hcount]
        cases r.function with
        | error e => exact Or.inl ⟨_, fun _ => rfl⟩
        | ok found =>
            obtain ⟨name, h⟩ := found
            by_cases hsize : (h.digestSize : Int) ≠ r.digestSize
            · simp only [if_pos hsize]
              exact Or.inl ⟨_, fun _ => rfl⟩
            · simp only [if_neg hsize]
              cases r.blockFault memory h with
              | some fault => exact Or.inl ⟨_, fun _ => rfl⟩
              | none =>
                  refine Or.inr ⟨h, purpose, fun n => ?_⟩
                  by_cases hzero : n = 0
                  · subst hzero
                    exact congrArg Except.ok (stream_of_le (Nat.zero_le _)).symm
                  · have hne : (n : Int) ≠ 0 := by omega
                    simp only [if_neg hne, Int.toNat_natCast]

private theorem answer_eq_map_take (memory : Memory) (r : Request) (hv : 1 ≤ r.blockSize)
    {n m : Nat} (hnm : n ≤ m) :
    Request.answer memory { r with length := n }
      = (Request.answer memory { r with length := m }).map fun long => long.take n := by
  rcases answer_of_blockSize_pos memory r hv with ⟨e, herror⟩ | ⟨h, purpose, hok⟩
  · rw [herror, herror]
    rfl
  · rw [hok, hok, derive_eq_take _ _ _ _ hnm]
    rfl

-- ======================================================== the schemes

/-- The keys of the two schemes are cut from one stream, and their initial
vectors are the same. Both schemes check the count against the same settings,
so that they are accepted together. -/
private theorem key_iv_of_schemes (s : Settings) (salt password : Bytes) {count : Nat}
    (hpos : 1 ≤ count)
    (hle : count ≤ s.maxIterations) :
    ∃ key iv : Bytes,
      key.length = 24 ∧ iv.length = 8
      ∧ Derivation.key (.ok s) .tripleDes salt password count = .ok key
      ∧ Derivation.key (.ok s) .rc2 salt password count = .ok (key.take 5)
      ∧ Derivation.iv (.ok s) .tripleDes salt password count = .ok iv
      ∧ Derivation.iv (.ok s) .rc2 salt password count = .ok iv := by
  have hcheck : Derivation.checkIterations (.ok s) count = .ok () := by
    rw [Derivation.checkIterations_eq s hpos, if_pos hle]
  have hkey (t : Scheme) : Derivation.key (.ok s) t salt password count
      = .ok (Derivation.derived .key t.keyLength salt password count) := by
    rw [Derivation.key, hcheck]
    rfl
  have hiv (t : Scheme) : Derivation.iv (.ok s) t salt password count
      = .ok (Derivation.derived .iv t.ivLength salt password count) := by
    rw [Derivation.iv, hcheck]
    rfl
  -- the only place where the two key lengths are compared
  have hcut : Derivation.derived .key Scheme.rc2.keyLength salt password count
      = (Derivation.derived .key Scheme.tripleDes.keyLength salt password count).take 5 :=
    derive_eq_take salt password _ .key (by decide)
  have hlength (purpose : Purpose) (n : Nat) :
      (Derivation.derived purpose n salt password count).length = n := length_derive ..
  refine ⟨_, _, hlength .key Scheme.tripleDes.keyLength, hlength .iv Scheme.tripleDes.ivLength,
    hkey .tripleDes, ?_, hiv .tripleDes, hiv .rc2⟩
  rw [hkey, hcut]

/-- Derived strings are streams, cut to length. A derived string has the
length that was asked for and is a beginning of every longer one. A request
for a known hash function, hash blocks that there is memory for and a
positive count is answered so, and any other request with hash blocks of
some size fails whatever length it asks for. The RC2 scheme therefore takes
the first five octets of the triple DES key for its key, and the initial
vectors of the two schemes are the same. -/
theorem shorter_is_beginning (h : Hash) (v : Nat) (salt password : Bytes) (iterations : Nat)
    (purpose : Purpose) {n m : Nat} (hnm : n ≤ m) :
    (derive h v salt password iterations purpose n).length = n
      ∧ derive h v salt password iterations purpose n
        = (derive h v salt password iterations purpose m).take n
      ∧ (∀ (memory : Memory) (hash : Text) (name : String),
          Request.function ⟨hash, v, h.digestSize, salt, password, iterations,
            purpose.octet.toNat, n⟩ = .ok (name, h) →
          1 ≤ v → v ≤ memory.octets → 1 ≤ iterations →
          ∃ long : Bytes,
            Request.answer memory ⟨hash, v, h.digestSize, salt, password, iterations,
                purpose.octet.toNat, m⟩ = .ok long
            ∧ Request.answer memory ⟨hash, v, h.digestSize, salt, password, iterations,
                purpose.octet.toNat, n⟩ = .ok (long.take n)
            ∧ (long.take n).length = n)
      ∧ (∀ (memory : Memory) (r : Request), 1 ≤ r.blockSize →
          Request.answer memory { r with length := n }
            = (Request.answer memory { r with length := m }).map fun long => long.take n)
      ∧ ∀ (s : Settings) (salt password : Bytes) (count : Nat), 1 ≤ count →
          count ≤ s.maxIterations →
          ∃ key iv : Bytes,
            key.length = 24 ∧ iv.length = 8
            ∧ Derivation.key (.ok s) .tripleDes salt password count = .ok key
            ∧ Derivation.key (.ok s) .rc2 salt password count = .ok (key.take 5)
            ∧ Derivation.iv (.ok s) .tripleDes salt password count = .ok iv
            ∧ Derivation.iv (.ok s) .rc2 salt password count = .ok iv := by
  have hlength := length_derive h v salt password iterations purpose n
  have hcut : derive h v salt password iterations purpose n
      = (derive h v salt password iterations purpose m).take n :=
    derive_eq_take salt password iterations purpose hnm
  refine ⟨hlength, hcut, ?_, fun memory r hv => answer_eq_map_take memory r hv hnm,
    fun s salt password count hpos hle => key_iv_of_schemes s salt password hpos hle⟩
  intro memory hash name hname hv hmem hr
  -- the hash function is found by its name, whatever the length
  have hanswer (k : Nat) : Request.answer memory ⟨hash, v, h.digestSize, salt, password, iterations,
        purpose.octet.toNat, k⟩
      = .ok (derive h v salt password iterations purpose k) := answer_eq hv hmem hr hname
  refine ⟨_, hanswer m, ?_, ?_⟩
  · rw [hanswer n, hcut]
  · rw [← hcut, hlength]

/-- Twenty octets of SHA-1 are one output block, forty-five are three. -/
theorem shorter_is_beginning_sha1 :
    20 ≤ 45
      ∧ (∃ long : Bytes,
          Request.answer .common ⟨Text.ofString "sha1", 64, 20, [0xFF], [0, 0], 2, 2, 45⟩ = .ok long
          ∧ Request.answer .common ⟨Text.ofString "sha1", 64, 20, [0xFF], [0, 0], 2, 2, 20⟩
            = .ok (long.take 20)
          ∧ (long.take 20).length = 20)
      ∧ ∃ key iv : Bytes,
          key.length = 24 ∧ iv.length = 8
          ∧ Derivation.key (.ok Settings.standard) .tripleDes [0xFF] [0, 0] 2048 = .ok key
          ∧ Derivation.key (.ok Settings.standard) .rc2 [0xFF] [0, 0] 2048 = .ok (key.take 5)
          ∧ Derivation.iv (.ok Settings.standard) .tripleDes [0xFF] [0, 0] 2048 = .ok iv
          ∧ Derivation.iv (.ok Settings.standard) .rc2 [0xFF] [0, 0] 2048 = .ok iv := by
  have hnm : 20 ≤ 45 := by decide
  have htext : (Text.ofString "sha1").toString? = some "sha1" :=
    Text.toString?_eq_some_iff.2 rfl
  have hlower : "sha1".toLower = "sha1" := by decide +kernel
  obtain ⟨-, -, hanswer, -, hschemes⟩ :=
    shorter_is_beginning Hash.sha1 64 [0xFF] [0, 0] 2 .iv hnm
  refine ⟨hnm, hanswer _ (Text.ofString "sha1") "sha1" ?_ (by decide) (by decide) (by decide),
    hschemes Settings.standard [0xFF] [0, 0] 2048 (by decide) (by decide)⟩
  simp [Request.function, htext, Hash.ofName?, Hash.named, hlower]

end Pkcs12.KeyStream
