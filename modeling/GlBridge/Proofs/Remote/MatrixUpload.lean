import GlBridge.Proofs.Remote.Meaning
import Mathlib.Algebra.Ring.Nat
import Mathlib.Data.Fintype.Basic
import Mathlib.Tactic.FinCases

/-!
# How a matrix is uploaded

A matrix is written down by its rows, kept by its columns and uploaded as bytes that the executor
is told not to transpose. `uniformMatrix_layout` follows the entries all the way: whatever the
state of the context, one call is queued with one buffer of 64 bytes, and the little-endian word
with the number `4 * column + row` in it is the entry in that row and column, bit for bit.

Nothing is lost on the way. `Single.words?` reads the words of a buffer and takes back what
`Mat4.bytes` wrote (`Mat4.words_bytes`), so `Mat4.ofBytes?` rebuilds the matrix and two matrices
with the same bytes are the same word for word (`Mat4.bytes_inj`). No step looks at what a word
stands for: NaNs keep their payload, and zeros their sign.
-/

namespace GlBridge

/-! ### Words in bytes -/

namespace Single

/-- The word with the given bytes, the least significant one first. -/
def ofBytes (b₀ b₁ b₂ b₃ : UInt8) : Single :=
  ⟨BitVec.ofNat Format.single.width
    (b₀.toNat + 2 ^ 8 * b₁.toNat + 2 ^ 16 * b₂.toNat + 2 ^ 24 * b₃.toNat)⟩

/-- The words that a buffer consists of, if it is made up of whole words. -/
def words? : Bytes → Option (List Single)
  | [] => some []
  | b₀ :: b₁ :: b₂ :: b₃ :: rest => (words? rest).map (ofBytes b₀ b₁ b₂ b₃ :: ·)
  | _ => none

/-- The four digits of a number below `2 ^ 32` to the base 256. -/
theorem digits_eq {n : Nat} (h : n < 2 ^ 32) :
    n % 2 ^ 8 + 2 ^ 8 * (n / 2 ^ 8 % 2 ^ 8) + 2 ^ 16 * (n / 2 ^ 16 % 2 ^ 8) +
      2 ^ 24 * (n / 2 ^ 24 % 2 ^ 8) = n := by
  omega

/-- What a word is written as begins with this word, whatever comes after it. -/
theorem words_bytes_append (x : Single) (rest : Bytes) :
    words? (x.bytes ++ rest) = (words? rest).map (x :: ·) := by
  -- the four bytes are the digits of the word, and so they give it back
  have hword : ofBytes (UInt8.ofNat x.bits.toNat) (UInt8.ofNat (x.bits.toNat >>> 8))
      (UInt8.ofNat (x.bits.toNat >>> 16)) (UInt8.ofNat (x.bits.toNat >>> 24)) = x := by
    ext1
    apply BitVec.eq_of_toNat_eq
    unfold ofBytes
    have hlt : x.bits.toNat < 2 ^ 32 := x.bits.isLt
    rw [BitVec.toNat_ofNat]
    simp only [UInt8.toNat_ofNat', Nat.shiftRight_eq_div_pow]
    exact (congrArg (· % 2 ^ 32) (digits_eq hlt)).trans (Nat.mod_eq_of_lt hlt)
  show (words? rest).map _ = _
  rw [hword]

/-- **Words that were written one after the other can be read back.** -/
theorem words_flatMap_bytes (xs : List Single) : words? (xs.flatMap bytes) = some xs := by
  induction xs with
  | nil => rfl
  | cons x xs ih => rw [List.flatMap_cons, words_bytes_append, ih, Option.map_some]

end Single

/-! ### Matrices in bytes -/

/-- A component by its position. -/
def Vec4.get {α : Type} (v : Vec4 α) : Fin 4 → α
  | 0 => v.x
  | 1 => v.y
  | 2 => v.z
  | 3 => v.w

namespace Mat4

variable {α : Type}

/-- The matrix with the given entries, column by column, if they are sixteen. -/
def ofList? : List α → Option (Mat4 α)
  | [a₀, a₁, a₂, a₃, b₀, b₁, b₂, b₃, c₀, c₁, c₂, c₃, d₀, d₁, d₂, d₃] =>
    some ⟨⟨a₀, a₁, a₂, a₃⟩, ⟨b₀, b₁, b₂, b₃⟩, ⟨c₀, c₁, c₂, c₃⟩, ⟨d₀, d₁, d₂, d₃⟩⟩
  | _ => none

/-- The matrix that was uploaded as the given bytes. -/
def ofBytes? (bytes : Bytes) : Option (Mat4 Single) := (Single.words? bytes).bind ofList?

/-- The matrix with the rows of a family. -/
def ofRowFamily (rows : Fin 4 → Vec4 α) : Mat4 α := ofRows (rows 0) (rows 1) (rows 2) (rows 3)

@[simp] theorem transpose_transpose (m : Mat4 α) : m.transpose.transpose = m := rfl

/-- The sixteen entries make up the matrix again. -/
theorem ofList_toList (m : Mat4 α) : ofList? m.toList = some m := rfl

/-- The entries of a matrix come column by column. -/
theorem getElem_toList_ofRowFamily (rows : Fin 4 → Vec4 α) (r c : Fin 4) :
    (ofRowFamily rows).toList[4 * c.val + r.val]? = some ((rows r).get c) := by
  -- one equation for each of the sixteen positions
  fin_cases c <;> fin_cases r <;> rfl

/-- The bytes of a matrix are the words of its entries. -/
theorem words_bytes (m : Mat4 Single) : Single.words? m.bytes = some m.toList :=
  Single.words_flatMap_bytes m.toList

/-- **A matrix can be rebuilt from its bytes.** -/
theorem ofBytes_bytes (m : Mat4 Single) : ofBytes? m.bytes = some m := by
  rw [ofBytes?, words_bytes, Option.bind_some, ofList_toList]

/-- **The bytes tell matrices apart.** -/
theorem bytes_inj {m m' : Mat4 Single} : m.bytes = m'.bytes ↔ m = m' := by
  constructor
  · intro h
    have hrebuilt := congrArg ofBytes? h
    rw [ofBytes_bytes, ofBytes_bytes] at hrebuilt
    exact Option.some.inj hrebuilt
  · rintro rfl
    rfl

/-- Matrices are the same if all their entries are, bit for bit. -/
theorem ofRowFamily_inj {rows rows' : Fin 4 → Vec4 Single} :
    ofRowFamily rows = ofRowFamily rows' ↔
      ∀ r c, ((rows r).get c).bits = ((rows' r).get c).bits := by
  constructor
  · intro h r c
    -- an entry can be read off the list, and the lists are the same
    have hentry := getElem_toList_ofRowFamily rows r c
    rw [h, getElem_toList_ofRowFamily rows' r c] at hentry
    exact congrArg Binary.bits (Option.some.inj hentry).symm
  · intro h
    have hrow : rows = rows' := by
      funext r
      exact Vec4.ext (Binary.ext (h r 0)) (Binary.ext (h r 1)) (Binary.ext (h r 2))
        (Binary.ext (h r 3))
    rw [hrow]

end Mat4

/-! ### The call -/

namespace Context

variable {σ : Type}

/-- The call that uploads a matrix. Its last argument takes the next attached buffer. -/
def uploadCall (location : Handle) : Instruction :=
  .exec "uniformMatrix4fv" [.string location.key, .bool false, .string "bufferfloat32"]

/-- Inside a chunk the call and its buffer are held. -/
theorem uniformMatrix_of_inside (tr : Transport σ) (c : Context σ) (location : Handle)
    (m : Mat4 Single) (h : c.depth ≠ 0) :
    uniformMatrix tr location m c =
      ⟨.ok (), (c.withBuffer m.bytes).queued (uploadCall location),
        c.traceEvents (.exec "uniformMatrix4fv")⟩ := by
  have hdepth : (c.withBuffer m.bytes).depth ≠ 0 := h
  unfold uniformMatrix
  rw [execWithBuffer_apply, exec_of_inside _ _ _ _ hdepth]
  rfl

/-- Outside they are sent at once, behind whatever was held. -/
theorem uniformMatrix_of_outside (tr : Transport σ) (c : Context σ) (location : Handle)
    (m : Mat4 Single) (h : c.depth = 0) :
    uniformMatrix tr location m c =
      let sent := tr.send (.exec (c.pending ++ [uploadCall location])) (c.buffers ++ [m.bytes])
        c.transport
      ⟨sent.1, c.emptied sent.2, c.traceEvents (.exec "uniformMatrix4fv") ++
        [.flushing (c.pending.length + 1)]⟩ := by
  -- the buffer is queued before its call, and both leave with the message
  have hdepth : (c.withBuffer m.bytes).depth = 0 := h
  unfold uniformMatrix
  rw [execWithBuffer_apply, exec_sends _ _ _ _ hdepth]
  rfl

/-- **A matrix arrives as it was written down.** Uploading the matrix with the given rows queues
one call, with the arguments that leave its buffer as it is, and one buffer; outside a chunk both
are sent at once, behind what was held. The buffer has 64 bytes, and its words are the entries
column by column, bit for bit. The matrix can be rebuilt from it, and two matrices have the same
buffer just when all their entries have the same bits. Transposing twice changes nothing. -/
theorem uniformMatrix_layout (tr : Transport σ) (c : Context σ) (location : Handle)
    (rows : Fin 4 → Vec4 Single) :
    (uniformMatrix tr location (Mat4.ofRowFamily rows) c =
      if c.depth = 0 then
        let sent := tr.send (.exec (c.pending ++ [uploadCall location]))
          (c.buffers ++ [(Mat4.ofRowFamily rows).bytes]) c.transport
        ⟨sent.1, c.emptied sent.2, c.traceEvents (.exec "uniformMatrix4fv") ++
          [.flushing (c.pending.length + 1)]⟩
      else
        ⟨.ok (), (c.withBuffer (Mat4.ofRowFamily rows).bytes).queued (uploadCall location),
          c.traceEvents (.exec "uniformMatrix4fv")⟩) ∧
    (Mat4.ofRowFamily rows).bytes.length = 64 ∧
    (∃ words, Single.words? (Mat4.ofRowFamily rows).bytes = some words ∧
      ∀ r col : Fin 4, words[4 * col.val + r.val]? = some ((rows r).get col)) ∧
    (Mat4.ofRowFamily rows).transpose.transpose = Mat4.ofRowFamily rows ∧
    Mat4.ofBytes? (Mat4.ofRowFamily rows).bytes = some (Mat4.ofRowFamily rows) ∧
    ∀ rows' : Fin 4 → Vec4 Single,
      (Mat4.ofRowFamily rows).bytes = (Mat4.ofRowFamily rows').bytes ↔
        ∀ r col, ((rows r).get col).bits = ((rows' r).get col).bits := by
  refine ⟨?_, Mat4.length_bytes _, ⟨_, Mat4.words_bytes _, Mat4.getElem_toList_ofRowFamily rows⟩,
    Mat4.transpose_transpose _, Mat4.ofBytes_bytes _, fun rows' => ?_⟩
  · by_cases h : c.depth = 0
    · rw [if_pos h, uniformMatrix_of_outside tr c location _ h]
    · rw [if_neg h, uniformMatrix_of_inside tr c location _ h]
  · rw [Mat4.bytes_inj, Mat4.ofRowFamily_inj]

end Context

end GlBridge
