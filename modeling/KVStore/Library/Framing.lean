import Mathlib.Data.List.Basic
import Mathlib.Tactic.Linarith

/-!
# Reading from a stream

A byte stream arrives in chunks: `recv n` returns at least one and at most `n` of the next
bytes, and nothing only at the end of the stream. How large the chunks are is up to the
network. `recvExact` collects chunks until it has the number of bytes that it was asked
for; what it returns does not depend on the chunks.

The length of a frame is written in front of it, in four bytes, the most significant first.
-/

namespace Framing

/-- The bytes that are still to come, and the sizes of the next chunks, which are clipped
to what `recv` may return. When there are no more sizes, as much as possible arrives. -/
structure Socket where
  incoming : List UInt8
  chunks : List ℕ := []
deriving DecidableEq

namespace Socket

def chunkSize (s : Socket) (n : ℕ) : ℕ :=
  match s.chunks with
  | [] => n
  | k :: _ => min n (max 1 k)

/-- `sock.recv(n)` -/
def recv (s : Socket) (n : ℕ) : List UInt8 × Socket :=
  (s.incoming.take (s.chunkSize n),
    { incoming := s.incoming.drop (s.chunkSize n), chunks := s.chunks.tail })

/-- The loop of `recvExact`; `fuel` bounds the number of its rounds. -/
def recvLoop : ℕ → ℕ → List UInt8 → Socket → Option (List UInt8) × Socket
  | _, 0, received, s => (some received, s)
  | 0, _ + 1, _, s => (none, s)
  | fuel + 1, remaining + 1, received, s =>
      match s.recv (remaining + 1) with
      | ([], s) => (none, s)
      | (chunk, s) => recvLoop fuel (remaining + 1 - chunk.length) (received ++ chunk) s

/-- The next `size` bytes, and `none` when the stream ends before. -/
def recvExact (s : Socket) (size : ℕ) : Option (List UInt8) × Socket :=
  recvLoop size size [] s

theorem chunkSize_pos (s : Socket) {n : ℕ} (hn : 0 < n) : 0 < s.chunkSize n := by
  unfold chunkSize
  split
  · exact hn
  · exact lt_min hn (lt_max_of_lt_left Nat.one_pos)

theorem chunkSize_le (s : Socket) (n : ℕ) : s.chunkSize n ≤ n := by
  unfold chunkSize
  split
  · exact le_rfl
  · exact min_le_left _ _

/-- A first chunk of `k` bytes and what the rest of the loop adds to it. -/
theorem continue_spec (received incoming : List UInt8) (chunks : List ℕ) {k n : ℕ} (hk : k ≤ n) :
    (if n - (incoming.take k).length ≤ (incoming.drop k).length then
        some (received ++ incoming.take k ++
          (incoming.drop k).take (n - (incoming.take k).length))
      else none,
      Socket.mk ((incoming.drop k).drop (n - (incoming.take k).length)) chunks) =
    (if n ≤ incoming.length then some (received ++ incoming.take n) else none,
      { incoming := incoming.drop n, chunks := chunks }) := by
  by_cases hlong : k ≤ incoming.length
  · have hlength : (incoming.take k).length = k := by
      rw [List.length_take, min_eq_left hlong]
    have hsum : k + (n - k) = n := by omega
    have htake : incoming.take k ++ (incoming.drop k).take (n - k) = incoming.take n := by
      rw [← List.take_add, hsum]
    have hdrop : (incoming.drop k).drop (n - k) = incoming.drop n := by
      rw [List.drop_drop, hsum]
    have hiff : n - k ≤ (incoming.drop k).length ↔ n ≤ incoming.length := by
      rw [List.length_drop]
      omega
    rw [hlength, hdrop, List.append_assoc, htake]
    simp only [hiff]
  · have hall : incoming.take k = incoming := List.take_of_length_le (by omega)
    have hnone : incoming.drop k = [] := List.drop_of_length_le (by omega)
    have hdrop : incoming.drop n = [] := List.drop_of_length_le (by omega)
    rw [hall, hnone, hdrop, List.drop_nil, if_neg, if_neg]
    · omega
    · rw [List.length_nil]
      omega

theorem recvLoop_spec (fuel remaining : ℕ) (received : List UInt8) (s : Socket)
    (hfuel : remaining ≤ fuel) :
    ∃ chunks, recvLoop fuel remaining received s =
      (if remaining ≤ s.incoming.length then some (received ++ s.incoming.take remaining)
        else none, { incoming := s.incoming.drop remaining, chunks := chunks }) := by
  induction fuel generalizing remaining received s with
  | zero =>
      obtain rfl : remaining = 0 := Nat.le_zero.1 hfuel
      exact ⟨s.chunks, by simp [recvLoop]⟩
  | succ fuel ih =>
      cases remaining with
      | zero => exact ⟨s.chunks, by simp [recvLoop]⟩
      | succ n =>
          have hpos : 0 < s.chunkSize (n + 1) := s.chunkSize_pos (Nat.succ_pos n)
          have hle := s.chunkSize_le (n + 1)
          cases hincoming : s.incoming with
          | nil =>
              refine ⟨s.chunks.tail, ?_⟩
              simp [recvLoop, recv, hincoming]
          | cons byte rest =>
              -- at least one byte arrives, so the rest of the loop asks for less
              have hchunk : s.incoming.take (s.chunkSize (n + 1)) ≠ [] := by
                rw [hincoming]
                obtain ⟨k, hk⟩ := Nat.exists_eq_succ_of_ne_zero hpos.ne'
                rw [hk, List.take_succ_cons]
                exact List.cons_ne_nil _ _
              obtain ⟨first, others, hfirst⟩ := List.exists_cons_of_ne_nil hchunk
              have hlength : (s.incoming.take (s.chunkSize (n + 1))).length =
                  min (s.chunkSize (n + 1)) s.incoming.length := List.length_take
              have hsome : 0 < s.incoming.length := by
                rw [hincoming]
                exact Nat.succ_pos _
              obtain ⟨chunks, hrest⟩ := ih
                (n + 1 - (s.incoming.take (s.chunkSize (n + 1))).length)
                (received ++ s.incoming.take (s.chunkSize (n + 1)))
                { incoming := s.incoming.drop (s.chunkSize (n + 1)), chunks := s.chunks.tail }
                (by omega)
              refine ⟨chunks, ?_⟩
              have hround : recvLoop (fuel + 1) (n + 1) received s =
                  recvLoop fuel (n + 1 - (s.incoming.take (s.chunkSize (n + 1))).length)
                    (received ++ s.incoming.take (s.chunkSize (n + 1)))
                    { incoming := s.incoming.drop (s.chunkSize (n + 1))
                      chunks := s.chunks.tail } := by
                simp only [recvLoop, recv, hfirst]
              rw [hround, hrest, ← hincoming]
              exact continue_spec received s.incoming chunks hle

/-- What `recvExact` returns, whatever the chunks are. -/
theorem recvExact_spec (s : Socket) (size : ℕ) :
    ∃ chunks, s.recvExact size =
      (if size ≤ s.incoming.length then some (s.incoming.take size) else none,
        { incoming := s.incoming.drop size, chunks := chunks }) := by
  obtain ⟨chunks, h⟩ := recvLoop_spec size size [] s le_rfl
  exact ⟨chunks, h⟩

end Socket

/-- `struct.Struct("!I").pack` -/
def packLength (n : ℕ) : List UInt8 :=
  [UInt8.ofNat (n / 2 ^ 24), UInt8.ofNat (n / 2 ^ 16), UInt8.ofNat (n / 2 ^ 8), UInt8.ofNat n]

/-- `struct.Struct("!I").unpack` -/
def unpackLength (bytes : List UInt8) : ℕ :=
  bytes.foldl (fun value byte => value * 256 + byte.toNat) 0

theorem length_packLength (n : ℕ) : (packLength n).length = 4 := rfl

theorem unpackLength_packLength {n : ℕ} (hn : n < 2 ^ 32) :
    unpackLength (packLength n) = n := by
  simp only [packLength, unpackLength, List.foldl_cons, List.foldl_nil, UInt8.toNat_ofNat']
  omega

end Framing
