/-
Encrypted content over whole runs of operations.

# One operation

An operation changes the content only if it succeeds and is no decryption, and
then it changes the one field that it is about. This is said once, for one
operation (`perform_of_not_changes`, `exists_setAlgorithm`,
`assignsData_or_encrypts`), one case per constructor, and everything else
follows from it by induction on the run.

# Runs

What differs after a run was changed by one of its operations
(`exists_step_of_ne`): the induction looks at one field and finds the step at
which it changed. The other way round, a run without a changing operation
leaves the content as it was.

# The invariant

What a run remembers of its past is the operation that changed the content
last, `latest`. The invariant is that an encryption which is remembered can
still be reversed (`decrypt_after_of_latest`). It holds when the encryption
is done, because encryption and decryption under one identifier and password
are inverse; and an operation that is not remembered leaves the content as it
was, so that it holds on. That includes decryptions under other passwords,
failed encryptions, and changes of bits that are not there.
-/
import Pkcs12.Content
import Pkcs12.Proofs.Encryption.Failure

namespace Pkcs12.EncryptedContent

variable {settings : Settings.Source} {c : EncryptedContent}

-- ======================================================= one operation

/-- An operation that assigns to the data: new data as a whole, or the data
with one bit changed. -/
inductive Operation.AssignsData : Operation → Prop
  | setData (data : Bytes) : AssignsData (.setData data)
  | flipBit (bit : Int) : AssignsData (.flipBit bit)

/-- Whether an operation changes the content: it succeeds and is no decryption.
Assigning what was there already counts as a change. -/
def changes (settings : Settings.Source) (c : EncryptedContent) : Operation → Bool
  | .decrypt _ => false
  | op => (c.perform settings op).1.isOk

private theorem update_of_not_isOk {data : Except Error Bytes}
    (h : (c.update data).1.isOk = false) :
    (c.update data).2 = c := by
  cases data with
  | ok data => cases h
  | error e => rfl

/-- An operation that does not change the content leaves it as it was, one case
per constructor. -/
theorem perform_of_not_changes {op : Operation} (h : changes settings c op = false) :
    (c.perform settings op).2 = c := by
  cases op with
  | encrypt plaintext password => exact update_of_not_isOk h
  | decrypt password => rfl
  | setAlgorithm algorithm => cases h
  | setData data => cases h
  | flipBit bit => exact update_of_not_isOk h

private theorem perform_of_error {op : Operation} {e : Error}
    (h : (c.perform settings op).1 = .error e) : (c.perform settings op).2 = c := by
  have hfails : (c.perform settings op).1.isOk = false := by
    rw [h]
    rfl
  apply perform_of_not_changes
  cases op with
  | decrypt password => rfl
  | encrypt plaintext password => exact hfails
  | setAlgorithm algorithm => exact hfails
  | setData data => exact hfails
  | flipBit bit => exact hfails

theorem algorithm_update (data : Except Error Bytes) :
    (c.update data).2.algorithm = c.algorithm := by
  cases data with
  | ok data => rfl
  | error e => rfl

/-- The algorithm changes by assignment only: encryption and changes of bits
update the data, and decryption nothing. -/
private theorem exists_setAlgorithm {op : Operation}
    (h : (c.perform settings op).2.algorithm ≠ c.algorithm) : ∃ a, op = .setAlgorithm a := by
  cases op with
  | encrypt plaintext password => exact absurd (algorithm_update _) h
  | decrypt password => exact absurd rfl h
  | setAlgorithm algorithm => exact ⟨algorithm, rfl⟩
  | setData data => exact absurd rfl h
  | flipBit bit => exact absurd (algorithm_update _) h

/-- The data change by assignment or by an encryption, and then the
operation changes the content. -/
private theorem assignsData_or_encrypts {op : Operation}
    (h : (c.perform settings op).2.data ≠ c.data) :
    changes settings c op = true
      ∧ (op.AssignsData ∨ ∃ plaintext password, op = .encrypt plaintext password) := by
  constructor
  · cases hchanges : changes settings c op with
    | true => rfl
    | false => exact absurd (congrArg data (perform_of_not_changes hchanges)) h
  · cases op with
    | encrypt plaintext password => exact Or.inr ⟨plaintext, password, rfl⟩
    | decrypt password => exact absurd rfl h
    | setAlgorithm algorithm => exact absurd rfl h
    | setData data => exact Or.inl (.setData data)
    | flipBit bit => exact Or.inl (.flipBit bit)

/-- An encryption that changes the content has succeeded, and has left its
ciphertext in place of the data. -/
private theorem encrypt_of_changes {plaintext password : Bytes}
    (h : changes settings c (.encrypt plaintext password) = true) :
    ((c.perform settings (.encrypt plaintext password)).1 = .ok none)
      ∧ encrypt settings c.algorithm password plaintext
        = .ok (c.perform settings (.encrypt plaintext password)).2.data := by
  simp only [changes, perform] at h ⊢
  cases henc : encrypt settings c.algorithm password plaintext with
  | ok ciphertext => exact ⟨rfl, rfl⟩
  | error e =>
      rw [henc] at h
      cases h

/-- After an encryption that changes the content its plaintext can be had back,
since the identifier is still the one it was encrypted under. -/
private theorem decrypt_of_changes {plaintext password : Bytes}
    (h : changes settings c (.encrypt plaintext password) = true) :
    ((c.perform settings (.encrypt plaintext password)).2.perform settings (.decrypt password)).1
      = .ok (some plaintext) := by
  have henc := (encrypt_of_changes h).2
  have hdec : decrypt settings c.algorithm password
      (c.perform settings (.encrypt plaintext password)).2.data = .ok plaintext := by
    obtain ⟨⟨cipher, iv⟩, hkeyed⟩ := exists_cipherFor_of_encrypt henc
    exact decrypt_of_encrypt hkeyed henc
  have halgorithm : (c.perform settings (.encrypt plaintext password)).2.algorithm = c.algorithm :=
    algorithm_update _
  show (decrypt settings _ password _).map some = _
  rw [halgorithm, hdec]
  rfl

-- ================================================================= runs

/-- The content after operations, one after the other. -/
def after (settings : Settings.Source) (c : EncryptedContent) (ops : List Operation) :
    EncryptedContent :=
  ops.foldl (fun c op => (c.perform settings op).2) c

/-- The last one of some operations that changes the content, if there is one. -/
def latest (settings : Settings.Source) : EncryptedContent → List Operation → Option Operation
  | _, [] => none
  | c, op :: ops =>
    (latest settings (c.perform settings op).2 ops).or
      (if changes settings c op then some op else none)

variable {ops : List Operation}

/-- What differs after a run has been changed by one of its operations. -/
private theorem exists_step_of_ne {α : Type} (field : EncryptedContent → α)
    (h : field (after settings c ops) ≠ field c) :
    ∃ earlier op later, ops = earlier ++ op :: later
      ∧ field ((after settings c earlier).perform settings op).2
        ≠ field (after settings c earlier) := by
  induction ops generalizing c with
  | nil => exact absurd rfl h
  | cons op ops ih =>
      -- the field changes at the first operation, or at one of the others
      by_cases hstep : field (c.perform settings op).2 = field c
      · have hrest : field (after settings (c.perform settings op).2 ops)
            ≠ field (c.perform settings op).2 := by
          rw [hstep]
          exact h
        obtain ⟨earlier, later', later, rfl, hne⟩ := ih hrest
        exact ⟨op :: earlier, later', later, rfl, hne⟩
      · exact ⟨[], op, ops, rfl, hstep⟩

/-- A run without a changing operation leaves the content as it was. -/
private theorem after_of_latest_eq_none (h : latest settings c ops = none) :
    after settings c ops = c := by
  induction ops generalizing c with
  | nil => rfl
  | cons op ops ih =>
      rw [latest, Option.or_eq_none_iff] at h
      have hstep : (c.perform settings op).2 = c := by
        apply perform_of_not_changes
        cases hchanges : changes settings c op with
        | false => rfl
        | true => simp [hchanges] at h
      show after settings (c.perform settings op).2 ops = c
      rw [ih h.1, hstep]

/-- While an encryption is the latest change, its plaintext can be had back. By
induction on the run from its front: a later change is one of the rest, and if
there is none the rest leaves the content as it was. -/
private theorem decrypt_after_of_latest {plaintext password : Bytes}
    (h : latest settings c ops = some (.encrypt plaintext password)) :
    ((after settings c ops).perform settings (.decrypt password)).1 = .ok (some plaintext) := by
  induction ops generalizing c with
  | nil => cases h
  | cons op ops ih =>
      rw [latest, Option.or_eq_some_iff] at h
      show ((after settings (c.perform settings op).2 ops).perform settings _).1 = _
      rcases h with hlater | ⟨hnone, hop⟩
      · exact ih hlater
      · rw [after_of_latest_eq_none hnone]
        split at hop
        next hchanges =>
          cases hop
          exact decrypt_of_changes hchanges
        next => cases hop

/-- The history of encrypted content, for a run of any operations from any
content. At every point of it the next operation changes the algorithm only
by assigning it, and the data only by assigning them or by encrypting with
success; an operation that fails, and a decryption, changes neither. So
over the run as a whole, what has changed was changed by such an operation,
and without one the content is as it was. And while the latest change is an
encryption, decryption under its password answers its plaintext. -/
theorem perform_after (settings : Settings.Source) (c : EncryptedContent) (ops : List Operation) :
    (∀ op answer next, (after settings c ops).perform settings op = (answer, next) →
        (next.algorithm ≠ (after settings c ops).algorithm → ∃ a, op = .setAlgorithm a)
        ∧ (next.data ≠ (after settings c ops).data →
            op.AssignsData ∨ (∃ plaintext password, op = .encrypt plaintext password)
              ∧ answer = .ok none)
        ∧ (∀ e, answer = .error e → next = after settings c ops)
        ∧ ∀ password, op = .decrypt password → next = after settings c ops)
      ∧ ((after settings c ops).algorithm ≠ c.algorithm → ∃ a, .setAlgorithm a ∈ ops)
      ∧ ((after settings c ops).data ≠ c.data →
          ∃ earlier op later, ops = earlier ++ op :: later
            ∧ changes settings (after settings c earlier) op = true
            ∧ (op.AssignsData ∨ ∃ plaintext password, op = .encrypt plaintext password))
      ∧ (latest settings c ops = none → after settings c ops = c)
      ∧ ∀ plaintext password, latest settings c ops = some (.encrypt plaintext password) →
          ((after settings c ops).perform settings (.decrypt password)).1
            = .ok (some plaintext) := by
  refine ⟨?_, ?_, ?_, after_of_latest_eq_none, fun _ _ => decrypt_after_of_latest⟩
  · intro op answer next hperform
    obtain ⟨rfl, rfl⟩ : ((after settings c ops).perform settings op).1 = answer
        ∧ ((after settings c ops).perform settings op).2 = next := by
      rw [hperform]
      exact ⟨rfl, rfl⟩
    refine ⟨exists_setAlgorithm, ?_, fun e => perform_of_error, ?_⟩
    · intro hne
      obtain ⟨hchanges, hassigns | ⟨plaintext, password, rfl⟩⟩ := assignsData_or_encrypts hne
      · exact Or.inl hassigns
      · exact Or.inr ⟨⟨plaintext, password, rfl⟩, (encrypt_of_changes hchanges).1⟩
    · rintro password rfl
      rfl
  · intro hne
    obtain ⟨earlier, op, later, rfl, hstep⟩ := exists_step_of_ne algorithm hne
    obtain ⟨a, rfl⟩ := exists_setAlgorithm hstep
    exact ⟨a, List.mem_append_right _ List.mem_cons_self⟩
  · intro hne
    obtain ⟨earlier, op, later, hops, hstep⟩ := exists_step_of_ne data hne
    exact ⟨earlier, op, later, hops, assignsData_or_encrypts hstep⟩

/-- Content without a salt, encrypted once: neither a decryption under
another password nor a change of a bit that is not there is in the way of
the plaintext. -/
theorem perform_after_saltless :
    ((after (.ok Settings.standard) { algorithm := Identifier.saltless }
        [.encrypt [1, 2, 3] [], .decrypt [7], .flipBit (-(2 ^ 70))]).perform
      (.ok Settings.standard) (.decrypt [])).1 = .ok (some [1, 2, 3]) := by
  obtain ⟨-, -, -, -, hlatest⟩ := perform_after (.ok Settings.standard)
    { algorithm := Identifier.saltless }
    [.encrypt [1, 2, 3] [], .decrypt [7], .flipBit (-(2 ^ 70))]
  apply hlatest
  obtain ⟨⟨cipher, iv⟩, hkeyed⟩ := Identifier.exists_cipherFor_saltless []
  have hchanges : changes (.ok Settings.standard) { algorithm := Identifier.saltless }
      (.encrypt [1, 2, 3] []) = true := by
    simp only [changes, perform, encrypt_of_ok hkeyed]
    rfl
  have hlater (c : EncryptedContent) :
      latest (.ok Settings.standard) c [.decrypt [7], .flipBit (-(2 ^ 70))] = none := rfl
  rw [latest, hlater, if_pos hchanges]
  rfl

end Pkcs12.EncryptedContent
