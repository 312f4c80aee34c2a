import OpenAmpReference.LegacyApps.Sessions
import OpenAmpReference.Library.CountedLoop

namespace OpenAmpReference
namespace MatrixMultiply

/-!
# The matrix demonstration

The host sends two matrices in one message, the remote multiplies them and
sends the product back, and the host compares it with a product of its own.
The remote copies what it receives into an array on its stack and takes the
bounds of its loops from there, so every access is checked here: an access
that C leaves undefined ends the callback with a fault.
-/

open Sessions (maxSize shutdownMsg)

/-- How an access can leave what the callback may use. -/
inductive Fault
  /-- bytes behind the received ones, in the message or in its copy -/
  | beyondReceived
  /-- a store or an index outside an array -/
  | outsideArray
  deriving DecidableEq, Repr

/-! ## Words of a message -/

namespace Message

/-- The word at a place of the message. -/
def word (data : List UInt8) (offset : Nat) : BitVec 32 :=
  BitVec.ofNat 32 (ByteMemory.wordOfBytes (data.getD offset 0) (data.getD (offset + 1) 0)
    (data.getD (offset + 2) 0) (data.getD (offset + 3) 0))

/-- The word at a place of the message, if all of it has been received. -/
def readWord (data : List UInt8) (offset : Nat) : Except Fault (BitVec 32) :=
  if offset + 4 ≤ data.length then Except.ok (word data offset)
  else Except.error Fault.beyondReceived

def bytesOfWords (words : List (BitVec 32)) : List UInt8 :=
  words.flatMap fun value => ByteMemory.bytesOfWord value.toNat

theorem bytesOfWords_length (words : List (BitVec 32)) :
    (bytesOfWords words).length = 4 * words.length := by
  induction words with
  | nil => rfl
  | cons value rest inductionHypothesis =>
      rw [bytesOfWords, List.flatMap_cons, List.length_append]
      rw [bytesOfWords] at inductionHypothesis
      rw [inductionHypothesis, List.length_cons]
      simp only [ByteMemory.bytesOfWord, List.length_cons, List.length_nil]
      omega

/-- A word is read where it was written. -/
theorem word_bytesOfWords (words : List (BitVec 32)) {place : Nat}
    (inside : place < words.length) :
    word (bytesOfWords words) (4 * place) = words[place] := by
  induction words generalizing place with
  | nil => exact absurd inside (Nat.not_lt_zero place)
  | cons value rest inductionHypothesis =>
      cases place with
      | zero =>
          simp only [word, bytesOfWords, ByteMemory.bytesOfWord, List.flatMap_cons,
            List.cons_append, Nat.mul_zero, Nat.zero_add, List.getD_cons_zero,
            List.getD_cons_succ, ByteMemory.wordOfBytes_bytesOfWord, List.getElem_cons_zero,
            Nat.mod_eq_of_lt value.isLt, BitVec.ofNat_toNat, BitVec.setWidth_eq]
      | succ place =>
          have later := inductionHypothesis (Nat.lt_of_succ_lt_succ inside)
          rw [List.getElem_cons_succ, ← later]
          have shift : 4 * (place + 1) = 4 * place + 4 := Nat.mul_succ 4 place
          simp only [word, bytesOfWords, ByteMemory.bytesOfWord, List.flatMap_cons,
            List.cons_append, List.nil_append, shift, Nat.add_right_comm _ 4,
            List.getD_cons_succ]

theorem readWord_bytesOfWords (words : List (BitVec 32)) {place : Nat}
    (inside : place < words.length) :
    readWord (bytesOfWords words) (4 * place) = Except.ok words[place] := by
  rw [readWord, if_pos, word_bytesOfWords words inside]
  rw [bytesOfWords_length]
  omega

end Message

/-! ## Matrices -/

/-- `matrix`; the elements inside the array are those with both indices below `MAX_SIZE`. -/
structure Matrix where
  size : BitVec 32
  elements : Nat -> Nat -> BitVec 32

namespace Matrix

/-- The words of a matrix as they lie in memory. -/
def words (matrix : Matrix) : List (BitVec 32) :=
  matrix.size :: (List.range (maxSize * maxSize)).map fun place =>
    matrix.elements (place / maxSize) (place % maxSize)

/-- `sizeof(matrix)` in words -/
def wordCount : Nat := 1 + maxSize * maxSize

/-- `sizeof(matrix)` -/
def byteCount : Nat := 4 * wordCount

theorem words_length (matrix : Matrix) : matrix.words.length = wordCount := by
  simp only [words, List.length_cons, List.length_map, List.length_range, wordCount, Nat.add_comm]

/-- The place of an element among the words. -/
def place (i j : Nat) : Nat := 1 + (maxSize * i + j)

theorem place_lt {i j : Nat} (row : i < maxSize) (column : j < maxSize) :
    place i j < wordCount := by
  simp only [place, wordCount, maxSize] at row column ⊢
  omega

theorem words_place (matrix : Matrix) {i j : Nat} (column : j < maxSize)
    (inside : place i j < matrix.words.length) :
    matrix.words[place i j] = matrix.elements i j := by
  have quotient : (maxSize * i + j) / maxSize = i := by
    rw [Nat.mul_add_div (by decide), Nat.div_eq_of_lt column, Nat.add_zero]
  have remainder : (maxSize * i + j) % maxSize = j := by
    rw [Nat.mul_add_mod, Nat.mod_eq_of_lt column]
  have shift : place i j = (maxSize * i + j) + 1 := Nat.add_comm 1 _
  simp only [words, shift, List.getElem_cons_succ, List.getElem_map, List.getElem_range, quotient,
    remainder]

def bytes (matrix : Matrix) : List UInt8 :=
  Message.bytesOfWords matrix.words

/-- The matrix at a place of a message. -/
def ofBytesAt (data : List UInt8) (start : Nat) : Matrix where
  size := Message.word data start
  elements := fun i j => Message.word data (start + 4 * place i j)

/-- A matrix in a message of the right length. -/
def ofBytes (data : List UInt8) : Matrix :=
  ofBytesAt data 0

theorem bytes_length (matrix : Matrix) : matrix.bytes.length = byteCount := by
  rw [bytes, Message.bytesOfWords_length, words_length]
  rfl

theorem ofBytes_bytes_size (matrix : Matrix) : (ofBytes matrix.bytes).size = matrix.size := by
  have inside : 0 < matrix.words.length := by
    rw [words_length]
    decide
  exact Message.word_bytesOfWords matrix.words inside

theorem ofBytes_bytes_elements (matrix : Matrix) {i j : Nat} (inRow : i < maxSize)
    (inColumn : j < maxSize) : (ofBytes matrix.bytes).elements i j = matrix.elements i j := by
  have inside : place i j < matrix.words.length := by
    rw [words_length]
    exact place_lt inRow inColumn
  rw [← words_place matrix inColumn inside, ← Message.word_bytesOfWords matrix.words inside]
  simp only [ofBytes, ofBytesAt, Nat.zero_add, bytes]

/-- A store into an element, with its indices checked. -/
def setElement (matrix : Matrix) (i j : Nat) (value : BitVec 32) : Except Fault Matrix :=
  if i < maxSize ∧ j < maxSize then
    Except.ok { matrix with
      elements := fun row column =>
        if row = i ∧ column = j then value else matrix.elements row column }
  else Except.error Fault.outsideArray

end Matrix

/-- A matrix that can only be read, with the checks its memory needs. -/
structure Operand where
  size : Except Fault (BitVec 32)
  element : Nat -> Nat -> Except Fault (BitVec 32)

namespace Operand

/-- A matrix all of which has been stored. -/
def ofMatrix (matrix : Matrix) : Operand where
  size := Except.ok matrix.size
  element := fun i j =>
    if i < maxSize ∧ j < maxSize then Except.ok (matrix.elements i j)
    else Except.error Fault.outsideArray

/-- A matrix of `matrix_array`, where only the received bytes have been stored. -/
def ofMessage (data : List UInt8) (start : Nat) : Operand where
  size := Message.readWord data start
  element := fun i j =>
    if i < maxSize ∧ j < maxSize then Message.readWord data (start + 4 * Matrix.place i j)
    else Except.error Fault.outsideArray

/-- The operand answers as the matrix does. -/
structure Holds (operand : Operand) (matrix : Matrix) : Prop where
  size : operand.size = Except.ok matrix.size
  element : forall i j, i < maxSize -> j < maxSize ->
    operand.element i j = Except.ok (matrix.elements i j)

theorem holds_ofMatrix (matrix : Matrix) : Holds (ofMatrix matrix) matrix where
  size := rfl
  element := fun _ _ row column => if_pos (And.intro row column)

/-- A matrix all of which has been received. -/
theorem holds_received {data : List UInt8} {start : Nat}
    (received : start + Matrix.byteCount ≤ data.length) :
    Holds (ofMessage data start) (Matrix.ofBytesAt data start) := by
  constructor
  · apply if_pos
    simp only [Matrix.byteCount, Matrix.wordCount] at received
    omega
  · intro i j row column
    have inside := Matrix.place_lt row column
    have within : start + 4 * Matrix.place i j + 4 ≤ data.length := by
      simp only [Matrix.byteCount] at received
      omega
    simp only [ofMessage, if_pos (And.intro row column), Message.readWord, if_pos within,
      Matrix.ofBytesAt]

/-- A matrix that a message carries behind other words is read from its bytes. -/
theorem holds_ofMessage (earlier later : List (BitVec 32)) (matrix : Matrix) :
    Holds (ofMessage (Message.bytesOfWords (earlier ++ (matrix.words ++ later)))
      (4 * earlier.length)) matrix := by
  have read : forall place (inside : place < matrix.words.length),
      Message.readWord (Message.bytesOfWords (earlier ++ (matrix.words ++ later)))
        (4 * earlier.length + 4 * place) = Except.ok matrix.words[place] := by
    intro place inside
    have within : earlier.length + place < (earlier ++ (matrix.words ++ later)).length := by
      rw [List.length_append, List.length_append]
      omega
    rw [← Nat.mul_add, Message.readWord_bytesOfWords _ within,
      List.getElem_append_right (Nat.le_add_right _ _)]
    simp only [Nat.add_sub_cancel_left]
    rw [List.getElem_append_left inside]
  constructor
  · exact read 0 (by rw [Matrix.words_length]; decide)
  · intro i j row column
    have inside : Matrix.place i j < matrix.words.length := by
      rw [Matrix.words_length]
      exact Matrix.place_lt row column
    simp only [ofMessage, if_pos (And.intro row column), read _ inside,
      Matrix.words_place matrix column inside]

end Operand

/-! ## The three loops -/

/-- `r->elements[i][j] += m->elements[i][k] * n->elements[k][j]` -/
def addProduct (m n : Operand) (i j k : Nat) (r : Matrix) : Except Fault Matrix := do
  let first <- m.element i k
  let second <- n.element k j
  r.setElement i j (r.elements i j + first * second)

/-- The innermost loop.  No store of it reaches `r->size`. -/
def multiplyElement (m n : Operand) (i j : Nat) (r : Matrix) : Except Fault Matrix :=
  CountedLoop.run (addProduct m n i j) r.size.toNat r

def multiplyRow (m n : Operand) (i : Nat) (r : Matrix) : Except Fault Matrix := do
  let columns <- n.size
  CountedLoop.run (multiplyElement m n i) columns.toNat r

/-- `matrix_multiply()` as both programs have it -/
def multiplyLoops (m n : Operand) : Except Fault Matrix := do
  let size <- m.size
  CountedLoop.run (multiplyRow m n) size.toNat { size := size, elements := fun _ _ => 0 }

/-- `matrix_multiply()` of the host -/
def matrixMultiply (m n : Matrix) : Except Fault Matrix :=
  multiplyLoops (Operand.ofMatrix m) (Operand.ofMatrix n)

/-- `Matrix_Multiply()` of the remote, on the matrices of `matrix_array` -/
def remoteMatrixMultiply (data : List UInt8) : Except Fault Matrix :=
  multiplyLoops (Operand.ofMessage data 0) (Operand.ofMessage data Matrix.byteCount)

/-- The sum of the first products, in 32 bits. -/
def partialProduct (m n : Matrix) (i j rounds : Nat) : BitVec 32 :=
  BitVec.ofNat 32 (∑ k ∈ Finset.range rounds, (m.elements i k).toNat * (n.elements k j).toNat)

theorem partialProduct_succ (m n : Matrix) (i j k : Nat) :
    partialProduct m n i j (k + 1) =
      partialProduct m n i j k + m.elements i k * n.elements k j := by
  rw [partialProduct, Finset.sum_range_succ, BitVec.ofNat_add, BitVec.ofNat_mul,
    BitVec.ofNat_toNat, BitVec.ofNat_toNat, BitVec.setWidth_eq, BitVec.setWidth_eq, partialProduct]

/-- An element of the product: the sum modulo `2 ^ 32` in the block, and zero elsewhere. -/
def trueProduct (m n : Matrix) (i j : Nat) : Nat :=
  if i < m.size.toNat ∧ j < n.size.toNat then
    (∑ k ∈ Finset.range m.size.toNat, (m.elements i k).toNat * (n.elements k j).toNat) % 2 ^ 32
  else 0

/-- What the loops leave in the array that was cleared. -/
def product (m n : Matrix) : Matrix where
  size := m.size
  elements := fun i j =>
    if i < m.size.toNat ∧ j < n.size.toNat then partialProduct m n i j m.size.toNat else 0

theorem product_toNat (m n : Matrix) (i j : Nat) :
    ((product m n).elements i j).toNat = trueProduct m n i j := by
  unfold product trueProduct
  dsimp only
  split
  · rw [partialProduct, BitVec.toNat_ofNat]
  · rfl

section Loops

variable {left right : Operand} {m n : Matrix}

/-- One element after the first rounds of the innermost loop. -/
def cell (m n : Matrix) (r : Matrix) (i j rounds : Nat) : Matrix :=
  { r with
    elements := fun row column =>
      if row = i ∧ column = j then partialProduct m n i j rounds else r.elements row column }

/-- One row after the first rounds of the second loop. -/
def row (m n : Matrix) (r : Matrix) (i columns : Nat) : Matrix :=
  { r with
    elements := fun place column =>
      if place = i ∧ column < columns then partialProduct m n place column m.size.toNat
      else r.elements place column }

/-- The result after the first rounds of the outermost loop. -/
def block (m n : Matrix) (rows : Nat) : Matrix where
  size := m.size
  elements := fun i j =>
    if i < rows ∧ j < n.size.toNat then partialProduct m n i j m.size.toNat else 0

theorem cell_zero {r : Matrix} {i j : Nat} (cleared : r.elements i j = 0) :
    cell m n r i j 0 = r := by
  have same : (cell m n r i j 0).elements = r.elements := by
    funext row column
    simp only [cell]
    split
    · rename_i here
      rw [here.1, here.2, cleared]
      rfl
    · rfl
  cases r
  exact congrArg (Matrix.mk _) same

theorem row_zero {r : Matrix} {i : Nat} : row m n r i 0 = r := by
  simp only [row, Nat.not_lt_zero, and_false, if_false]

theorem row_succ (r : Matrix) (i columns : Nat) :
    cell m n (row m n r i columns) i columns m.size.toNat = row m n r i (columns + 1) := by
  have same : (cell m n (row m n r i columns) i columns m.size.toNat).elements =
      (row m n r i (columns + 1)).elements := by
    funext place column
    simp only [cell, row]
    by_cases here : place = i
    · by_cases last : column = columns
      · rw [if_pos ⟨here, last⟩, if_pos ⟨here, by omega⟩, here, last]
      · rw [if_neg fun both => last both.2]
        by_cases before : column < columns
        · rw [if_pos ⟨here, before⟩, if_pos ⟨here, by omega⟩]
        · rw [if_neg fun both => before both.2, if_neg]
          rintro ⟨_, within⟩
          omega
    · rw [if_neg fun both => here both.1, if_neg fun both => here both.1,
        if_neg fun both => here both.1]
  exact congrArg (Matrix.mk r.size) same

theorem block_succ (rows : Nat) :
    row m n (block m n rows) rows n.size.toNat = block m n (rows + 1) := by
  have same : (row m n (block m n rows) rows n.size.toNat).elements =
      (block m n (rows + 1)).elements := by
    funext place column
    simp only [row, block]
    by_cases within : column < n.size.toNat
    · by_cases last : place = rows
      · rw [if_pos ⟨last, within⟩, if_pos ⟨by omega, within⟩]
      · rw [if_neg fun both => last both.1]
        by_cases before : place < rows
        · rw [if_pos ⟨before, within⟩, if_pos ⟨by omega, within⟩]
        · rw [if_neg fun both => before both.1, if_neg]
          rintro ⟨earlier, _⟩
          omega
    · rw [if_neg fun both => within both.2, if_neg fun both => within both.2,
        if_neg fun both => within both.2]
  exact congrArg (Matrix.mk m.size) same

theorem block_zero : block m n 0 = { size := m.size, elements := fun _ _ => 0 } := by
  simp only [block, Nat.not_lt_zero, false_and, if_false]

theorem setElement_ok {r : Matrix} {i j : Nat} (value : BitVec 32) (inRow : i < maxSize)
    (inColumn : j < maxSize) :
    r.setElement i j value = Except.ok { r with
      elements := fun row column =>
        if row = i ∧ column = j then value else r.elements row column } :=
  if_pos (And.intro inRow inColumn)

/-- The innermost loop adds up the products of a row and a column. -/
theorem multiplyElement_eq (holdsLeft : left.Holds m) (holdsRight : right.Holds n) {r : Matrix}
    {i j : Nat} (inRow : i < maxSize) (inColumn : j < maxSize) (small : r.size.toNat ≤ maxSize)
    (cleared : r.elements i j = 0) :
    multiplyElement left right i j r = Except.ok (cell m n r i j r.size.toNat) := by
  have loop : CountedLoop.run (addProduct left right i j) r.size.toNat (cell m n r i j 0) =
      Except.ok (cell m n r i j r.size.toNat) := by
    apply CountedLoop.run_trace
    intro k inside
    have within : k < maxSize := Nat.lt_of_lt_of_le inside small
    have here : (cell m n r i j k).elements i j = partialProduct m n i j k :=
      if_pos (And.intro rfl rfl)
    simp only [addProduct, holdsLeft.element i k inRow within,
      holdsRight.element k j within inColumn, bind, Except.bind, setElement_ok _ inRow inColumn]
    rw [here, ← partialProduct_succ]
    have same : (fun row column =>
        if row = i ∧ column = j then partialProduct m n i j (k + 1)
        else (cell m n r i j k).elements row column) = (cell m n r i j (k + 1)).elements := by
      funext row column
      simp only [cell]
      split <;> rfl
    rw [same]
    rfl
  rwa [cell_zero cleared] at loop

/-- The second loop fills one row. -/
theorem multiplyRow_eq (holdsLeft : left.Holds m) (holdsRight : right.Holds n) {r : Matrix}
    {i : Nat} (sameSize : r.size = m.size) (rows : m.size.toNat ≤ maxSize)
    (columns : n.size.toNat ≤ maxSize) (inRow : i < maxSize)
    (cleared : forall j, r.elements i j = 0) :
    multiplyRow left right i r = Except.ok (row m n r i n.size.toNat) := by
  have loop : CountedLoop.run (multiplyElement left right i) n.size.toNat (row m n r i 0) =
      Except.ok (row m n r i n.size.toNat) := by
    apply CountedLoop.run_trace
    intro j inside
    have untouched : (row m n r i j).elements i j = 0 := by
      simp only [row, Nat.lt_irrefl, and_false, if_false, cleared]
    have keeps : (row m n r i j).size = m.size := sameSize
    rw [multiplyElement_eq holdsLeft holdsRight inRow (Nat.lt_of_lt_of_le inside columns)
      (keeps ▸ rows) untouched, keeps, row_succ]
  rw [row_zero] at loop
  simp only [multiplyRow, holdsRight.size, bind, Except.bind, loop]

/-- The loops compute the product of what the operands hold. -/
theorem multiplyLoops_eq (holdsLeft : left.Holds m) (holdsRight : right.Holds n)
    (rows : m.size.toNat ≤ maxSize) (columns : n.size.toNat ≤ maxSize) :
    multiplyLoops left right = Except.ok (product m n) := by
  have loop : CountedLoop.run (multiplyRow left right) m.size.toNat (block m n 0) =
      Except.ok (block m n m.size.toNat) := by
    apply CountedLoop.run_trace
    intro i inside
    have cleared : forall j, (block m n i).elements i j = 0 := by
      intro j
      simp only [block, Nat.lt_irrefl, false_and, if_false]
    have keeps : (block m n i).size = m.size := rfl
    rw [multiplyRow_eq holdsLeft holdsRight keeps rows columns (Nat.lt_of_lt_of_le inside rows)
      cleared, block_succ]
  rw [block_zero] at loop
  simp only [multiplyLoops, holdsLeft.size, bind, Except.bind, loop]
  rfl

end Loops

/-- The loops agree with the product the services of the task loop are specified by. -/
theorem product_sessions (m n : Matrix) (i j : Nat) :
    ((product m n).elements i j).toNat =
      (Sessions.Matrix.multiply
        { size := m.size.toNat, elements := fun i j => (m.elements i j).toNat }
        { size := n.size.toNat, elements := fun i j => (n.elements i j).toNat }).elements i j := by
  rw [product_toNat, trueProduct, Sessions.Matrix.multiply]
  simp only [Sessions.Matrix.accumulate_eq]

/-! ## The remote -/

/-- `NUM_MATRIX` -/
def numMatrix : Nat := 2

/-- The state of the remote, with the messages handed to `rpmsg_send()`. -/
structure Remote where
  shutdownReq : Bool
  sent : List (List UInt8)
  deriving DecidableEq, Repr

namespace Remote

def initial : Remote where
  shutdownReq := false
  sent := []

/-- `rpmsg_endpoint_cb()` of the remote; the result of `rpmsg_send()` is only printed. -/
def rpmsgEndpointCb (remote : Remote) (data : List UInt8) : Except Fault Remote := do
  let first <- Message.readWord data 0
  if first.toNat = shutdownMsg then Except.ok { remote with shutdownReq := true }
  -- memcpy(matrix_array, data, len)
  else if numMatrix * Matrix.byteCount < data.length then Except.error Fault.outsideArray
  else do
    let matrixResult <- remoteMatrixMultiply data
    Except.ok { remote with sent := remote.sent ++ [matrixResult.bytes] }

end Remote

/-- The message the host sends. -/
def request (m n : Matrix) : List UInt8 :=
  Message.bytesOfWords (m.words ++ n.words)

theorem request_length (m n : Matrix) : (request m n).length = numMatrix * Matrix.byteCount := by
  rw [request, Message.bytesOfWords_length, List.length_append, Matrix.words_length,
    Matrix.words_length]
  rfl

theorem holds_first (m n : Matrix) : (Operand.ofMessage (request m n) 0).Holds m :=
  Operand.holds_ofMessage [] n.words m

theorem holds_second (m n : Matrix) :
    (Operand.ofMessage (request m n) Matrix.byteCount).Holds n := by
  have held := Operand.holds_ofMessage m.words [] n
  rwa [List.append_nil, Matrix.words_length] at held

namespace Remote

/-- Two whole matrices of at most the maximal size are answered with their product. -/
theorem rpmsgEndpointCb_answers (remote : Remote) {data : List UInt8} {m n : Matrix}
    (length : data.length = numMatrix * Matrix.byteCount)
    (first : (Operand.ofMessage data 0).Holds m)
    (second : (Operand.ofMessage data Matrix.byteCount).Holds n)
    (rows : m.size.toNat ≤ maxSize) (columns : n.size.toNat ≤ maxSize) :
    remote.rpmsgEndpointCb data =
      Except.ok { remote with sent := remote.sent ++ [(product m n).bytes] } := by
  have ordinary : m.size.toNat ≠ shutdownMsg := by
    simp only [maxSize, shutdownMsg] at rows ⊢
    omega
  have fits : ¬ numMatrix * Matrix.byteCount < data.length := by
    rw [length]
    exact Nat.lt_irrefl _
  have start : Message.readWord data 0 = Except.ok m.size := first.size
  have multiplied : remoteMatrixMultiply data = Except.ok (product m n) :=
    multiplyLoops_eq first second rows columns
  simp only [rpmsgEndpointCb, start, multiplied, bind, Except.bind, if_neg ordinary, if_neg fits]

/-- The message is exactly two matrices of equal size, at most the maximal one. -/
def WellFormed (data : List UInt8) : Prop :=
  data.length = numMatrix * Matrix.byteCount ∧
    Message.word data 0 = Message.word data Matrix.byteCount ∧
    (Message.word data 0).toNat ≤ maxSize

instance wellFormedDecidable (data : List UInt8) : Decidable (WellFormed data) :=
  inferInstanceAs (Decidable (_ ∧ _ ∧ _))

/-- The callback makes no undefined access, and answers only what is well-formed. -/
def Safe (remote : Remote) (data : List UInt8) : Prop :=
  Exists fun after => remote.rpmsgEndpointCb data = Except.ok after ∧
    (after.sent ≠ remote.sent -> WellFormed data)

/-- The message is a request to stop: it begins with the shutdown word. -/
def Shutdown (data : List UInt8) : Prop :=
  4 ≤ data.length ∧ (Message.word data 0).toNat = shutdownMsg

/-- A callback that makes no undefined access has stopped the service or has answered. -/
theorem rpmsgEndpointCb_ok {remote after : Remote} {data : List UInt8}
    (returned : remote.rpmsgEndpointCb data = Except.ok after) :
    Shutdown data ∨ Exists fun result : Matrix => after.sent = remote.sent ++ [result.bytes] := by
  by_cases received : 4 ≤ data.length
  · have start : Message.readWord data 0 = Except.ok (Message.word data 0) := if_pos received
    simp only [rpmsgEndpointCb, start, bind, Except.bind] at returned
    by_cases stop : (Message.word data 0).toNat = shutdownMsg
    · exact Or.inl ⟨received, stop⟩
    · rw [if_neg stop] at returned
      split at returned
      · cases returned
      · cases multiplied : remoteMatrixMultiply data with
        | error fault =>
            simp only [multiplied, reduceCtorEq] at returned
        | ok result =>
            simp only [multiplied, Except.ok.injEq] at returned
            rw [← returned]
            exact Or.inr ⟨result, rfl⟩
  · have start : Message.readWord data 0 = Except.error Fault.beyondReceived := if_neg received
    simp only [rpmsgEndpointCb, start, bind, Except.bind, reduceCtorEq] at returned

theorem rpmsgEndpointCb_shutdown (remote : Remote) {data : List UInt8} (stop : Shutdown data) :
    remote.rpmsgEndpointCb data = Except.ok { remote with shutdownReq := true } := by
  have start : Message.readWord data 0 = Except.ok (Message.word data 0) := if_pos stop.1
  simp only [rpmsgEndpointCb, start, bind, Except.bind, if_pos stop.2]

/-- The messages the callback is safe on are the requests to stop and the well-formed ones. The
message is any list of bytes: the callback compares no length with that of its structure, so one
that is too short is read beyond its end, and a size beyond the array runs outside of it. -/
theorem safe_iff (remote : Remote) (data : List UInt8) :
    Safe remote data ↔ Shutdown data ∨ WellFormed data := by
  constructor
  · rintro ⟨after, returned, answers⟩
    rcases rpmsgEndpointCb_ok returned with stop | ⟨result, sent⟩
    · exact Or.inl stop
    · refine Or.inr (answers ?_)
      rw [sent]
      simp
  · rintro (stop | proper)
    · exact ⟨_, remote.rpmsgEndpointCb_shutdown stop, fun sent => absurd rfl sent⟩
    · have length := proper.1
      have first := @Operand.holds_received data 0 (by rw [length]; decide)
      have second := @Operand.holds_received data Matrix.byteCount (by rw [length]; decide)
      have columns : (Message.word data Matrix.byteCount).toNat ≤ maxSize := by
        rw [← proper.2.1]
        exact proper.2.2
      exact ⟨_, remote.rpmsgEndpointCb_answers length first second proper.2.2 columns,
        fun _ => proper⟩

/-- Four zero bytes are answered, with a matrix of size zero. -/
theorem answers_four_bytes :
    ¬ forall (remote : Remote) (data : List UInt8), data.length ≤ 496 -> Safe remote data := by
  intro safe
  have answered : initial.rpmsgEndpointCb [0, 0, 0, 0] =
      Except.ok { initial with
        sent := [Matrix.bytes { size := 0, elements := fun _ _ => 0 }] } := by
    rfl
  rcases safe initial [0, 0, 0, 0] (by decide) with ⟨after, returned, answers⟩
  rw [answered] at returned
  cases returned
  have proper := answers (List.cons_ne_nil _ _)
  exact absurd proper.1 (by decide)

end Remote

/-! ## The host -/

structure Host where
  eMatrix : Matrix
  resultReturned : Bool
  errCnt : Nat

namespace Host

/-- The comparison of one row, which is left at the first mismatch. -/
def compareRow (r e : Matrix) (i : Nat) : List Nat -> Nat -> Nat
  | [], errCnt => errCnt
  | j :: rest, errCnt =>
      if r.elements i j ≠ e.elements i j then errCnt + 1 else compareRow r e i rest errCnt

def compareRows (r e : Matrix) (rows : List Nat) (errCnt : Nat) : Nat :=
  rows.foldl (fun errCnt i => compareRow r e i (List.range maxSize) errCnt) errCnt

/-- `rpmsg_endpoint_cb()` of the host -/
def rpmsgEndpointCb (host : Host) (data : List UInt8) : Host :=
  if data.length ≠ Matrix.byteCount then { host with errCnt := host.errCnt + 1 }
  else
    let errCnt := compareRows (Matrix.ofBytes data) host.eMatrix (List.range maxSize) host.errCnt
    if errCnt ≠ 0 then { host with errCnt := errCnt }
    else { host with errCnt := errCnt, resultReturned := true }

/-- The row differs somewhere. -/
def mismatched (r e : Matrix) (i : Nat) : Bool :=
  (List.range maxSize).any fun j => r.elements i j ≠ e.elements i j

theorem compareRow_eq (r e : Matrix) (i errCnt : Nat) (columns : List Nat) :
    compareRow r e i columns errCnt =
      errCnt + if columns.any (fun j => r.elements i j ≠ e.elements i j) then 1 else 0 := by
  induction columns with
  | nil => rfl
  | cons j rest inductionHypothesis =>
      by_cases same : r.elements i j = e.elements i j
      · simp only [compareRow, same, ne_eq, not_true_eq_false, if_false, inductionHypothesis,
          List.any_cons, decide_false, Bool.false_or]
      · simp only [compareRow, same, ne_eq, not_false_eq_true, if_true, List.any_cons, decide_true,
          Bool.true_or]

/-- The comparison counts the rows with a mismatch. -/
theorem compareRows_eq (r e : Matrix) (rows : List Nat) (errCnt : Nat) :
    compareRows r e rows errCnt = errCnt + rows.countP (mismatched r e) := by
  induction rows generalizing errCnt with
  | nil => rfl
  | cons i rest inductionHypothesis =>
      change compareRows r e rest (compareRow r e i (List.range maxSize) errCnt) = _
      rw [inductionHypothesis, compareRow_eq, List.countP_cons, Nat.add_assoc,
        Nat.add_comm (List.countP _ rest)]
      rfl

/-- No row is counted if and only if all elements are equal. -/
theorem compareRows_zero (r e : Matrix) :
    compareRows r e (List.range maxSize) 0 = 0 ↔
      forall i j, i < maxSize -> j < maxSize -> r.elements i j = e.elements i j := by
  rw [compareRows_eq, Nat.zero_add, List.countP_eq_zero]
  constructor
  · intro none i j row column
    have kept := none i (List.mem_range.mpr row)
    simp only [mismatched, List.any_eq_true, not_exists, not_and] at kept
    have here := kept j (List.mem_range.mpr column)
    simpa using here
  · intro equal i member
    simp only [mismatched, List.any_eq_true, not_exists, not_and]
    intro j columns
    rw [equal i j (List.mem_range.mp member) (List.mem_range.mp columns)]
    simp

/-- A reply of the right length is accepted if and only if it has the expected elements. -/
theorem rpmsgEndpointCb_accepts (host : Host) {data : List UInt8} (fresh : host.errCnt = 0)
    (length : data.length = Matrix.byteCount) :
    ((host.rpmsgEndpointCb data).resultReturned = true ∧ (host.rpmsgEndpointCb data).errCnt = 0) ↔
      forall i j, i < maxSize -> j < maxSize ->
        (Matrix.ofBytes data).elements i j = host.eMatrix.elements i j := by
  rw [← compareRows_zero]
  unfold rpmsgEndpointCb
  rw [if_neg (not_not.mpr length), fresh]
  dsimp only
  generalize compareRows (Matrix.ofBytes data) host.eMatrix (List.range maxSize) 0 = errCnt
  by_cases zero : errCnt = 0
  · rw [if_neg (not_not.mpr zero)]
    exact ⟨fun _ => zero, fun _ => ⟨rfl, zero⟩⟩
  · rw [if_pos zero]
    constructor
    · rintro ⟨_, counted⟩
      exact counted
    · intro counted
      exact absurd counted zero

end Host

/-! ## Agreement -/

/-- The remote answers a request with the product of its matrices, and the host accepts a reply
of the right length if and only if it carries that product. The matrices have equal sizes that
fit the array, as the host makes them; the elements are any words and the sums wrap. The reply is
any one, not only that of the remote. -/
theorem matrix_agreement (m n : Matrix) (equal : n.size = m.size)
    (small : m.size.toNat ≤ maxSize) :
    (forall remote : Remote, Exists fun reply : List UInt8 =>
      remote.rpmsgEndpointCb (request m n) =
          Except.ok { remote with sent := remote.sent ++ [reply] } ∧
        reply.length = Matrix.byteCount ∧ (Matrix.ofBytes reply).size = m.size ∧
        forall i j, i < maxSize -> j < maxSize ->
          ((Matrix.ofBytes reply).elements i j).toNat = trueProduct m n i j) ∧
      Exists fun expected : Matrix => matrixMultiply m n = Except.ok expected ∧
        forall (host : Host) (data : List UInt8), host.errCnt = 0 -> host.eMatrix = expected ->
          data.length = Matrix.byteCount ->
          (((host.rpmsgEndpointCb data).resultReturned = true ∧
              (host.rpmsgEndpointCb data).errCnt = 0) ↔
            forall i j, i < maxSize -> j < maxSize ->
              ((Matrix.ofBytes data).elements i j).toNat = trueProduct m n i j) := by
  have columns : n.size.toNat ≤ maxSize := equal ▸ small
  constructor
  · intro remote
    refine ⟨(product m n).bytes, remote.rpmsgEndpointCb_answers (request_length m n)
        (holds_first m n) (holds_second m n) small columns,
      (product m n).bytes_length, (product m n).ofBytes_bytes_size, ?_⟩
    intro i j inRow inColumn
    rw [(product m n).ofBytes_bytes_elements inRow inColumn, product_toNat]
  · refine ⟨product m n, multiplyLoops_eq (Operand.holds_ofMatrix m) (Operand.holds_ofMatrix n)
      small columns, ?_⟩
    intro host data fresh expected length
    rw [host.rpmsgEndpointCb_accepts fresh length, expected]
    constructor
    · intro same i j inRow inColumn
      rw [same i j inRow inColumn, product_toNat]
    · intro same i j inRow inColumn
      apply BitVec.eq_of_toNat_eq
      rw [same i j inRow inColumn, product_toNat]

/-- Two matrices of size two whose products exceed 32 bits. -/
def largeElements : Matrix where
  size := 2
  elements := fun i j => BitVec.ofNat 32 (4294967295 - (2 * i + j))

theorem matrix_agreement_two :
    (Exists fun reply : List UInt8 =>
      Remote.initial.rpmsgEndpointCb (request largeElements largeElements) =
          Except.ok { shutdownReq := false, sent := [reply] } ∧
        ((Matrix.ofBytes reply).elements 1 1).toNat = 22 ∧
        ((Matrix.ofBytes reply).elements 1 2).toNat = 0) ∧
      Exists fun expected : Matrix =>
        matrixMultiply largeElements largeElements = Except.ok expected ∧
        ¬ ((Host.rpmsgEndpointCb { eMatrix := expected, resultReturned := false, errCnt := 0 }
            (List.replicate 148 0)).resultReturned = true ∧
          (Host.rpmsgEndpointCb { eMatrix := expected, resultReturned := false, errCnt := 0 }
            (List.replicate 148 0)).errCnt = 0) := by
  rcases matrix_agreement largeElements largeElements rfl (by decide) with
    ⟨remote, expected, multiplied, accepts⟩
  rcases remote Remote.initial with ⟨reply, answered, _, _, elements⟩
  refine ⟨⟨reply, answered, ?_, ?_⟩, expected, multiplied, ?_⟩
  · exact elements 1 1 (by decide) (by decide)
  · exact elements 1 2 (by decide) (by decide)
  · intro accepted
    have same := (accepts _ _ rfl rfl (List.length_replicate ..)).mp accepted
    have corner : 0 = 7 := same 0 0 (by decide) (by decide)
    exact absurd corner (by decide)

end MatrixMultiply
end OpenAmpReference
