/-
Whole blocks: a list whose length is a multiple of `n` is the same thing as a
list of pieces of `n` elements.

# Between the two

`chunks` cuts, `flatten` joins, and they undo each other: `flatten_chunks` for
every list, `chunks_flatten` for every list of pieces of the right length. So
a law about blocks carries over to octet strings and back without a look at
the recursion of `chunks`, whose measure is the length that is left. Where the
recursion does matter, the induction is the one that belongs to it
(`chunks.induct`), with the hypothesis about what is left after the first
piece.

`chunks_flatten_append` is the general form: pieces of the right length are
found again whatever follows them. Dividing joined blocks
(`chunks_flatten`) and going on after whole blocks (`chunks_whole_append`)
are its two readings.

# By position

Laws that speak of one block and not of all need the block at a position.
`block n j` is that block as a slice, without recursion; `getElem?_chunks`
finds it in the list of pieces and `chunks_eq_map_block` writes the whole list
by it. Beyond the end the slice is empty, so that two lists can be compared at
all positions alike.
-/
import Pkcs12.Bytes

namespace Pkcs12.Bytes

variable {α : Type} {n : Nat}

-- ======================================================== one piece

/-- A piece of the right length in front is the first of the pieces, and the rest
is divided as if it stood alone. -/
theorem chunks_append (hn : n ≠ 0) {piece : List α} (hp : piece.length = n)
    (rest : List α) : chunks n (piece ++ rest) = piece :: chunks n rest := by
  have hne : piece ++ rest ≠ [] := by
    intro h
    have := congrArg List.length h
    simp only [List.length_append, List.length_nil] at this
    omega
  rw [chunks_of_ne_nil hn hne, List.take_left' hp, List.drop_left' hp]

-- ================================================== pieces and the whole

/-- Nothing is lost in the division, whole blocks or not: the last piece is just
shorter when they are not. -/
theorem flatten_chunks (hn : n ≠ 0) (xs : List α) : (chunks n xs).flatten = xs := by
  induction xs using chunks.induct n with
  | case1 xs stop =>
      rcases stop with h | rfl
      · exact absurd h hn
      · rw [chunks_nil, List.flatten_nil]
  | case2 xs go ih =>
      have hx : xs ≠ [] := fun h => go (Or.inr h)
      rw [chunks_of_ne_nil hn hx, List.flatten_cons, ih, List.take_append_drop]

/-- Pieces of the right length are found again, and what follows them is divided
by itself. By induction on the pieces, since the division takes them one by
one. -/
private theorem chunks_flatten_append (hn : n ≠ 0) {pieces : List (List α)}
    (hp : ∀ p ∈ pieces, p.length = n) (rest : List α) :
    chunks n (pieces.flatten ++ rest) = pieces ++ chunks n rest := by
  induction pieces with
  | nil => rfl
  | cons p pieces ih =>
      rw [List.flatten_cons, List.append_assoc, chunks_append hn (hp p (List.mem_cons_self ..)),
        ih fun q hq => hp q (List.mem_cons_of_mem _ hq), List.cons_append]

theorem chunks_flatten (hn : n ≠ 0) {pieces : List (List α)}
    (hp : ∀ p ∈ pieces, p.length = n) : chunks n pieces.flatten = pieces := by
  have h := chunks_flatten_append hn hp []
  rwa [chunks_nil, List.append_nil, List.append_nil] at h

/-- The pieces of a list of whole blocks are blocks. -/
theorem length_of_mem_chunks {xs : List α} (h : xs.length % n = 0) :
    ∀ p ∈ chunks n xs, p.length = n := by
  induction xs using chunks.induct n with
  | case1 xs stop =>
      rw [chunks, dif_pos stop]
      intro p hp
      cases hp
  | case2 xs go ih =>
      have hn : n ≠ 0 := fun h => go (Or.inl h)
      have hx : xs ≠ [] := fun h => go (Or.inr h)
      have hpos : 0 < xs.length := List.length_pos_iff.mpr hx
      -- what is left of whole blocks has a first block, and is whole blocks
      -- without it
      have hle : n ≤ xs.length := Nat.le_of_dvd hpos (Nat.dvd_of_mod_eq_zero h)
      have hdrop : (xs.drop n).length % n = 0 := by
        rw [List.length_drop, ← Nat.mod_eq_sub_mod hle]
        exact h
      rw [chunks_of_ne_nil hn hx]
      intro p hp
      rcases List.mem_cons.mp hp with rfl | hp
      · rw [List.length_take, Nat.min_eq_left hle]
      · exact ih hdrop p hp

/-- After whole blocks a new piece begins. -/
theorem chunks_whole_append (hn : n ≠ 0) {xs : List α} (h : xs.length % n = 0)
    (rest : List α) : chunks n (xs ++ rest) = chunks n xs ++ chunks n rest := by
  have hsplit := chunks_flatten_append hn (length_of_mem_chunks h) rest
  rwa [flatten_chunks hn] at hsplit

-- =========================================================== lengths

theorem length_flatten_of_pieces {pieces : List (List α)}
    (hp : ∀ p ∈ pieces, p.length = n) : pieces.flatten.length = n * pieces.length := by
  induction pieces with
  | nil => rfl
  | cons p pieces ih =>
      rw [List.flatten_cons, List.length_append, hp p (List.mem_cons_self ..),
        ih fun q hq => hp q (List.mem_cons_of_mem _ hq), List.length_cons, Nat.mul_succ,
        Nat.add_comm]

/-- How many pieces whole blocks make. -/
theorem length_chunks (hn : n ≠ 0) {xs : List α} (h : xs.length % n = 0) :
    n * (chunks n xs).length = xs.length := by
  rw [← length_flatten_of_pieces (length_of_mem_chunks h), flatten_chunks hn]

/-- The first pieces of whole blocks are whole blocks. -/
theorem length_take_mod {xs : List α} (h : xs.length % n = 0) (k : Nat) :
    (xs.take (n * k)).length % n = 0 := by
  rcases Nat.le_total xs.length (n * k) with hall | hsome
  · rw [List.take_of_length_le hall]
    exact h
  · rw [List.length_take_of_le hsome, Nat.mul_mod_right]

-- ================================================= pieces by position

/-- Piece `j` of `n` elements, counted from zero: a slice, shorter at the end and
empty beyond it. -/
def block (n j : Nat) (xs : List α) : List α :=
  (xs.drop (n * j)).take n

theorem block_of_length_le {xs : List α} {j : Nat} (h : xs.length ≤ n * j) :
    block n j xs = [] := by
  rw [block, List.drop_of_length_le h, List.take_nil]

/-- Pieces that differ are within lists of one length, since beyond the end both
would be empty. -/
theorem lt_length_of_block_ne {xs ys : List α} {j : Nat} (hl : ys.length = xs.length)
    (h : block n j xs ≠ block n j ys) : n * j < xs.length := by
  apply Nat.lt_of_not_le
  intro hle
  apply h
  rw [block_of_length_le hle, block_of_length_le (by rw [hl]; exact hle)]

/-- A piece of whole blocks is a block. -/
theorem length_block {xs : List α} {j : Nat} (hx : xs.length % n = 0) (h : n * j < xs.length) :
    (block n j xs).length = n := by
  obtain ⟨k, hk⟩ := Nat.dvd_of_mod_eq_zero hx
  rw [hk] at h
  have hle : n * (j + 1) ≤ n * k := Nat.mul_le_mul_left n (Nat.lt_of_mul_lt_mul_left h)
  rw [Nat.mul_succ] at hle
  rw [block, List.length_take, List.length_drop, hk]
  omega

theorem take_append_block {xs : List α} {j : Nat} (h : xs.length = n * (j + 1)) :
    xs.take (n * j) ++ block n j xs = xs := by
  have hrest : (xs.drop (n * j)).length ≤ n := by
    rw [List.length_drop, h, Nat.mul_succ]
    omega
  rw [block, List.take_of_length_le hrest, List.take_append_drop]

/-- A piece of a beginning that contains it. -/
theorem block_take {xs : List α} {j k : Nat} (h : j < k) :
    block n j (xs.take (n * k)) = block n j xs := by
  have hle : n * (j + 1) ≤ n * k := Nat.mul_le_mul_left n h
  rw [Nat.mul_succ] at hle
  rw [block, block, List.drop_take, List.take_take, Nat.min_eq_left (by omega)]

/-- The pieces are found at their positions. -/
theorem getElem?_chunks (hn : n ≠ 0) {xs : List α} {j : Nat} (h : n * j < xs.length) :
    (chunks n xs)[j]? = some (block n j xs) := by
  have hx : xs ≠ [] := by
    rintro rfl
    exact absurd h (Nat.not_lt_zero _)
  rw [chunks_of_ne_nil hn hx]
  -- on the position: each step drops the first piece of the list and the
  -- first n elements below it
  induction j generalizing xs with
  | zero => rfl
  | succ j ih =>
      rw [Nat.mul_succ] at h
      have hdrop : n * j < (xs.drop n).length := by
        rw [List.length_drop]
        omega
      have hne : xs.drop n ≠ [] := by
        intro hnil
        rw [hnil] at hdrop
        exact absurd hdrop (Nat.not_lt_zero _)
      rw [List.getElem?_cons_succ, chunks_of_ne_nil hn hne, ih hdrop hne, block, block,
        List.drop_drop, Nat.mul_succ, Nat.add_comm]

/-- The pieces of whole blocks, by position: as many as the length divided by the
size, and each the slice at its place. -/
theorem chunks_eq_map_block (hn : n ≠ 0) {xs : List α} (h : xs.length % n = 0) :
    chunks n xs = (List.range (xs.length / n)).map fun j => block n j xs := by
  have hpos := Nat.pos_of_ne_zero hn
  have hcount : (chunks n xs).length = xs.length / n := by
    rw [← length_chunks hn h, Nat.mul_div_cancel_left _ hpos]
  apply List.ext_getElem?
  intro j
  rcases Nat.lt_or_ge j (xs.length / n) with hj | hj
  · have hin : n * j < xs.length := by
      rw [← Nat.mul_div_cancel' (Nat.dvd_of_mod_eq_zero h)]
      exact (Nat.mul_lt_mul_left hpos).mpr hj
    rw [getElem?_chunks hn hin, List.getElem?_map, List.getElem?_range hj]
    rfl
  · rw [List.getElem?_eq_none (by rw [hcount]; exact hj),
      List.getElem?_eq_none (by rw [List.length_map, List.length_range]; exact hj)]

end Pkcs12.Bytes
