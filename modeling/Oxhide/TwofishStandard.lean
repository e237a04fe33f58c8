import Oxhide.BlockCascade
import Oxhide.TwofishBlocks

/-! # Twofish as it is defined

The byte permutations from four permutations of half-bytes each, the function `h` as layers
of permutations with a product by the MDS matrix after them, the subkeys and the key of `g`
from `h` and the RS matrix, and sixteen rounds that exchange the halves. The program looks up
composed tables and logarithms instead; for every key of every size it gives the same
blocks. -/
namespace Oxhide.TwofishStandard
open BinaryFields BlockCascade CipherChain ListSplice TwofishBlocks TwofishTables WordBytes

section Permutations

/-- A half-byte turned right by one bit. -/
def rotateHalf (b : ℕ) : ℕ := b / 2 + b % 2 * 8

/-- One layer: the two half-bytes are mixed and each is permuted. -/
def mixHalves (t u : Vector ℕ 16) (halves : ℕ × ℕ) : ℕ × ℕ :=
  (t.toList.getD (halves.1 ^^^ halves.2) 0,
    u.toList.getD (halves.1 ^^^ rotateHalf halves.2 ^^^ 8 * halves.1 % 16) 0)

/-- Four permutations of the half-bytes. -/
structure HalfByteTables where
  t0 : Vector ℕ 16
  t1 : Vector ℕ 16
  t2 : Vector ℕ 16
  t3 : Vector ℕ 16

/-- The permutation of the bytes in two layers. -/
def HalfByteTables.permute (t : HalfByteTables) (x : UInt8) : UInt8 :=
  let halves := mixHalves t.t2 t.t3 (mixHalves t.t0 t.t1 (x.toNat / 16, x.toNat % 16))
  UInt8.ofNat (16 * halves.2 + halves.1)

def halves0 : HalfByteTables where
  t0 := #v[0x8, 0x1, 0x7, 0xD, 0x6, 0xF, 0x3, 0x2, 0x0, 0xB, 0x5, 0x9, 0xE, 0xC, 0xA, 0x4]
  t1 := #v[0xE, 0xC, 0xB, 0x8, 0x1, 0x2, 0x3, 0x5, 0xF, 0x4, 0xA, 0x6, 0x7, 0x0, 0x9, 0xD]
  t2 := #v[0xB, 0xA, 0x5, 0xE, 0x6, 0xD, 0x9, 0x0, 0xC, 0x8, 0xF, 0x3, 0x2, 0x4, 0x7, 0x1]
  t3 := #v[0xD, 0x7, 0xF, 0x4, 0x1, 0x2, 0x6, 0xE, 0x9, 0xB, 0x3, 0x0, 0x8, 0x5, 0xC, 0xA]

def halves1 : HalfByteTables where
  t0 := #v[0x2, 0x8, 0xB, 0xD, 0xF, 0x7, 0x6, 0xE, 0x3, 0x1, 0x9, 0x4, 0x0, 0xA, 0xC, 0x5]
  t1 := #v[0x1, 0xE, 0x2, 0xB, 0x4, 0xC, 0x3, 0x7, 0x6, 0xD, 0xA, 0x5, 0xF, 0x9, 0x0, 0x8]
  t2 := #v[0x4, 0xC, 0x7, 0x5, 0x1, 0x6, 0x9, 0xA, 0x0, 0xE, 0xD, 0x8, 0x2, 0xB, 0x3, 0xF]
  t3 := #v[0xB, 0x9, 0x5, 0x1, 0xC, 0x3, 0xD, 0xE, 0x6, 0x4, 0x7, 0xF, 0x2, 0x0, 0x8, 0xA]

/-- The permutations `q0` and `q1`. -/
def q (second : Bool) : UInt8 → UInt8 := (if second then halves1 else halves0).permute

end Permutations

section Matrices

/-- The low part of `x⁸ + x⁶ + x⁵ + x³ + 1`. -/
def mdsModulus : UInt8 := 0x69

def mds : Vector (Vector UInt8 4) 4 := #v[
  #v[0x01, 0xEF, 0x5B, 0x5B],
  #v[0x5B, 0xEF, 0xEF, 0x01],
  #v[0xEF, 0x5B, 0x01, 0xEF],
  #v[0xEF, 0x01, 0xEF, 0x5B]]

def rs : Vector (Vector UInt8 8) 4 := #v[
  #v[0x01, 0xA4, 0x55, 0x87, 0x5A, 0x58, 0xDB, 0x9E],
  #v[0xA4, 0x56, 0x82, 0xF3, 0x1E, 0xC6, 0x68, 0xE5],
  #v[0x02, 0xA1, 0xFC, 0xC1, 0x47, 0xAE, 0x3D, 0x19],
  #v[0xA4, 0x55, 0x87, 0x5A, 0x58, 0xDB, 0x9E, 0x03]]

/-- A matrix times a vector, with products of bytes modulo a polynomial. -/
def multiply {m n : ℕ} (r : UInt8) (M : Vector (Vector UInt8 n) m) (v : Vector UInt8 n) :
    Vector UInt8 m :=
  Vector.ofFn fun j =>
    (List.finRange n).foldl (fun sum c => sum ^^^ byteMul r ((M.get j).get c) (v.get c)) 0

end Matrices

section Schedule

/-- Which permutations stand before word `i` of the key of `h` is added. -/
def orderBefore : ℕ → Vector Bool 4
  | 0 => #v[false, false, true, true]
  | 1 => #v[false, true, false, true]
  | 2 => #v[true, true, false, false]
  | _ => #v[true, false, false, true]

/-- The permutations before the product. -/
def orderLast : Vector Bool 4 := #v[true, false, true, false]

def permute (order : Vector Bool 4) (x : Vector UInt8 4) : Vector UInt8 4 :=
  Vector.ofFn fun j => q (order.get j) (x.get j)

/-- The layers of words `i`, `i + 1`, …, the last word first. -/
def layers (i : ℕ) : List (Vector UInt8 4) → Vector UInt8 4 → Vector UInt8 4
  | [], x => x
  | l :: ls, x =>
    let y := permute (orderBefore i) (layers (i + 1) ls x)
    Vector.ofFn fun j => y.get j ^^^ l.get j

def h (L : List (Vector UInt8 4)) (x : Vector UInt8 4) : UInt32 :=
  fromLeBytes (multiply mdsModulus mds (permute orderLast (layers 0 L x))).toList

variable {chunks : ℕ} (key : Vector UInt8 (chunks * 8))

def evenWords : List (Vector UInt8 4) :=
  (List.finRange chunks).map fun i => arrayRef key (i.val * 8) 4 (by omega)

def oddWords : List (Vector UInt8 4) :=
  (List.finRange chunks).map fun i => arrayRef key (4 + i.val * 8) 4 (by omega)

/-- The key of `g`: the RS matrix times each eight bytes, the last ones first. -/
def sWords : List (Vector UInt8 4) := ((List.finRange chunks).map fun i =>
  multiply rsModulus rs (arrayRef key (i.val * 8) 8 (by omega))).reverse

/-- Subkey `j` of the expanded key. -/
def subkey (j : ℕ) : UInt32 :=
  let a := h (evenWords key) (splat (UInt8.ofNat (2 * (j / 2))))
  let b := rotateLeft (h (oddWords key) (splat (UInt8.ofNat (2 * (j / 2) + 1)))) 8
  if j % 2 = 0 then a + b else rotateLeft (a + 2 * b) 9

def gWord (x : UInt32) : UInt32 :=
  h (sWords key) (Vector.ofFn fun j => (toLeBytes x).getD j 0)

/-- Round `r` exchanges the halves. -/
def round (r : ℕ) (R : Registers) : Registers :=
  let t0 := gWord key R.r0
  let t1 := gWord key (rotateLeft R.r1 8)
  ⟨rotateRight (R.r2 ^^^ (t0 + t1 + subkey key (2 * r + 8))) 1,
    rotateLeft R.r3 1 ^^^ (t0 + 2 * t1 + subkey key (2 * r + 9)), R.r0, R.r1⟩

def encrypt (i : Bytes) : Bytes :=
  let R := composeAlong (round key) (List.range 16)
    ⟨fromLeBytes (slice i 0 4) ^^^ subkey key 0, fromLeBytes (slice i 4 4) ^^^ subkey key 1,
      fromLeBytes (slice i 8 4) ^^^ subkey key 2, fromLeBytes (slice i 12 4) ^^^ subkey key 3⟩
  ofWords (R.r2 ^^^ subkey key 4) (R.r3 ^^^ subkey key 5) (R.r0 ^^^ subkey key 6)
    (R.r1 ^^^ subkey key 7)

end Schedule

section Tables

theorem entry_eq {α : Type} (t : Vector α 256) (x : UInt8) :
    t.toList[x.toNat]? = some (entry t x) := by
  have hlt : x.toNat < 256 := x.toNat_lt
  have hget : entry t x = t[x.toNat] := rfl
  rw [hget]
  simp [hlt]

theorem entry_of_range {α : Type} {t : Vector α 256} {F : UInt8 → α}
    (h : t.toList = (List.range 256).map fun x => F (UInt8.ofNat x)) : entry t = F := by
  funext x
  have hlt : x.toNat < 256 := x.toNat_lt
  have hentry := entry_eq t x
  rw [h, List.getElem?_map, List.getElem?_range hlt, Option.map_some, UInt8.ofNat_toNat] at hentry
  exact (Option.some.inj hentry).symm

theorem entry_of_map {α : Type} {t : Vector α 256} {u : Vector UInt8 256} {F : UInt8 → α}
    (h : t.toList = u.toList.map F) (x : UInt8) : entry t x = F (entry u x) := by
  have hentry := entry_eq t x
  rw [h, List.getElem?_map, entry_eq u x] at hentry
  exact (Option.some.inj hentry).symm

theorem entry_q0 : entry q0 = q false := entry_of_range (by decide +kernel)

theorem entry_q1 : entry q1 = q true := entry_of_range (by decide +kernel)

/-- The bytes of a column of the MDS matrix, each times the same byte. -/
def column (j : Fin 4) (y : UInt8) : Vector UInt8 4 :=
  mds.map fun row => byteMul mdsModulus (row.get j) y

def columnWord (j : Fin 4) (y : UInt8) : UInt32 := fromLeBytes (column j y).toList

/-- The tables hold the columns of the MDS matrix times the permuted bytes. -/
theorem entry_mdsq (j : Fin 4) (x : UInt8) :
    entry (mdsq.get j) x = columnWord j (q (orderLast.get j) x) := by
  have htables : ∀ j, (mdsq.get j).toList =
      (if orderLast.get j then q1 else q0).toList.map (columnWord j) := by decide +kernel
  have hq : entry (if orderLast.get j then q1 else q0) = q (orderLast.get j) := by
    cases orderLast.get j with
    | false => exact entry_q0
    | true => exact entry_q1
  rw [entry_of_map (htables j), hq]

end Tables

section Columns
theorem ofLeBytes_xor {xs ys : Bytes} (h : xs.length = ys.length) :
    ofLeBytes (List.zipWith (· ^^^ ·) xs ys) = ofLeBytes xs ^^^ ofLeBytes ys := by
  apply Nat.eq_of_testBit_eq
  intro i
  rw [Nat.testBit_xor, testBit_ofLeBytes, testBit_ofLeBytes, testBit_ofLeBytes]
  by_cases hi : i / 8 < xs.length
  · rw [List.getD_eq_getElem _ _ (by simpa [h] using hi), List.getD_eq_getElem _ _ hi,
      List.getD_eq_getElem _ _ (by omega), List.getElem_zipWith, UInt8.toNat_xor, Nat.testBit_xor]
  · simp [List.getD_eq_getElem?_getD, h ▸ hi, hi]

theorem fromLeBytes_xor (u v : Vector UInt8 4) :
    fromLeBytes (Vector.zipWith (· ^^^ ·) u v).toList =
      fromLeBytes u.toList ^^^ fromLeBytes v.toList := by
  rw [fromLeBytes, Vector.toList_zipWith, ofLeBytes_xor (by simp), UInt32.ofNat_xor, fromLeBytes,
    fromLeBytes]

theorem toList_four {α : Type} (v : Vector α 4) :
    v.toList = [v.get 0, v.get 1, v.get 2, v.get 3] := by
  obtain ⟨⟨l⟩, hl⟩ := v
  match l, hl with
  | [_, _, _, _], _ => rfl

theorem finRange_four : List.finRange 4 = [0, 1, 2, 3] := rfl

/-- The product is the sum of the columns. -/
theorem columns_sum (y : Vector UInt8 4) :
    columnWord 0 (y.get 0) ^^^ columnWord 1 (y.get 1) ^^^ columnWord 2 (y.get 2) ^^^
      columnWord 3 (y.get 3) = fromLeBytes (multiply mdsModulus mds y).toList := by
  rw [columnWord, columnWord, columnWord, columnWord, ← fromLeBytes_xor, ← fromLeBytes_xor,
    ← fromLeBytes_xor]
  congr 2
  apply Vector.ext
  intro i hi
  simp [column, multiply, finRange_four]
  rfl

end Columns

section Layers

/-- The columns whose sum is `h`. -/
def columns (L : List (Vector UInt8 4)) (x : Vector UInt8 4) : Vector UInt32 4 :=
  Vector.ofFn fun j => columnWord j (q (orderLast.get j) ((layers 0 L x).get j))

theorem vector_four {α : Type} {u v : Vector α 4} (h0 : u.get 0 = v.get 0)
    (h1 : u.get 1 = v.get 1) (h2 : u.get 2 = v.get 2) (h3 : u.get 3 = v.get 3) : u = v := by
  apply Vector.toList_inj.mp
  rw [toList_four, toList_four, h0, h1, h2, h3]

@[simp] theorem get_ofFn {α : Type} {n : ℕ} (f : Fin n → α) (i : Fin n) :
    (Vector.ofFn f).get i = f i := by
  change (Vector.ofFn f)[i.val] = f i
  simp

theorem unsplat_columns (L : List (Vector UInt8 4)) (x : Vector UInt8 4) :
    unsplat (columns L x) = h L x := by
  have hsum := columns_sum (permute orderLast (layers 0 L x))
  simp only [permute, get_ofFn] at hsum
  simp only [unsplat, columns, get_ofFn, hsum, h, permute]

theorem layers_append (i : ℕ) (L M : List (Vector UInt8 4)) (x : Vector UInt8 4) :
    layers i (L ++ M) x = layers i L (layers (i + L.length) M x) := by
  induction L generalizing i with
  | nil => rfl
  | cons l ls ih =>
    have hlen : i + (l :: ls).length = i + 1 + ls.length := by simp; omega
    rw [List.cons_append, layers, layers, ih, hlen]

theorem columns_append (L M : List (Vector UInt8 4)) (x : Vector UInt8 4) :
    columns (L ++ M) x = columns L (layers L.length M x) := by
  rw [columns, columns, layers_append, Nat.zero_add]

theorem arrayRef_arrayRef {n off len off' len' o : ℕ} {key : Vector UInt8 n} {h : off + len ≤ n}
    {h' : off' + len' ≤ len} {ho : o + len' ≤ n} (heq : o = off + off') :
    arrayRef (arrayRef key off len h) off' len' h' = arrayRef key o len' ho := by
  subst heq
  simp only [arrayRef, get_ofFn, Nat.add_assoc]

theorem h128_eq (x : Vector UInt8 4) (key : Vector UInt8 12) :
    h128 x key = columns [arrayRef key 0 4 (by decide), arrayRef key 8 4 (by decide)] x := by
  simp only [h128, entry_mdsq, entry_q0, entry_q1]
  apply vector_four <;>
    simp only [columns, layers, permute, arrayRef, get_ofFn, Nat.zero_add] <;> rfl

theorem h128NoSkip_eq (x : Vector UInt8 4) (key : Vector UInt8 8) :
    h128NoSkip x key = columns [arrayRef key 0 4 (by decide), arrayRef key 4 4 (by decide)] x := by
  simp only [h128NoSkip, entry_mdsq, entry_q0, entry_q1]
  apply vector_four <;>
    simp only [columns, layers, permute, arrayRef, get_ofFn, Nat.zero_add] <;> rfl

theorem h192_eq (x : Vector UInt8 4) (key : Vector UInt8 20) :
    h192 x key = columns [arrayRef key 0 4 (by decide), arrayRef key 8 4 (by decide),
      arrayRef key 16 4 (by decide)] x := by
  have hlayer := columns_append [arrayRef key 0 4 (by decide), arrayRef key 8 4 (by decide)]
    [arrayRef key 16 4 (by decide)] x
  rw [h192, h128_eq, arrayRef_arrayRef rfl, arrayRef_arrayRef rfl]
  simp only [entry_q0, entry_q1]
  exact hlayer.symm

theorem h192NoSkip_eq (x : Vector UInt8 4) (key : Vector UInt8 12) :
    h192NoSkip x key = columns [arrayRef key 0 4 (by decide), arrayRef key 4 4 (by decide),
      arrayRef key 8 4 (by decide)] x := by
  have hlayer := columns_append [arrayRef key 0 4 (by decide), arrayRef key 4 4 (by decide)]
    [arrayRef key 8 4 (by decide)] x
  rw [h192NoSkip, h128NoSkip_eq, arrayRef_arrayRef rfl, arrayRef_arrayRef rfl]
  simp only [entry_q0, entry_q1]
  exact hlayer.symm

theorem h256_eq (x : Vector UInt8 4) (key : Vector UInt8 28) :
    h256 x key = columns [arrayRef key 0 4 (by decide), arrayRef key 8 4 (by decide),
      arrayRef key 16 4 (by decide), arrayRef key 24 4 (by decide)] x := by
  have hlayer := columns_append [arrayRef key 0 4 (by decide), arrayRef key 8 4 (by decide),
    arrayRef key 16 4 (by decide)] [arrayRef key 24 4 (by decide)] x
  rw [h256, h192_eq, arrayRef_arrayRef rfl, arrayRef_arrayRef rfl, arrayRef_arrayRef rfl]
  simp only [entry_q0, entry_q1]
  exact hlayer.symm

theorem h256NoSkip_eq (x : Vector UInt8 4) (key : Vector UInt8 16) :
    h256NoSkip x key = columns [arrayRef key 0 4 (by decide), arrayRef key 4 4 (by decide),
      arrayRef key 8 4 (by decide), arrayRef key 12 4 (by decide)] x := by
  have hlayer := columns_append [arrayRef key 0 4 (by decide), arrayRef key 4 4 (by decide),
    arrayRef key 8 4 (by decide)] [arrayRef key 12 4 (by decide)] x
  rw [h256NoSkip, h192NoSkip_eq, arrayRef_arrayRef rfl, arrayRef_arrayRef rfl,
    arrayRef_arrayRef rfl]
  simp only [entry_q0, entry_q1]
  exact hlayer.symm

end Layers

section KeyWords

theorem mem_toList {α : Type} {n : ℕ} (v : Vector α n) (i : Fin n) : v.get i ∈ v.toList := by
  have hget : v.get i = v[i.val] := rfl
  rw [hget]
  simp

/-- Looking up the sum of two exponents is a product, for a zero byte of the key too. -/
theorem get_rsMulColumn (s : Vector UInt8 4) (keyByte : UInt8) (c : Fin 8) (j : Fin 4) :
    (rsMulColumn (arrayRef rsMatrix (c.val * 4) 4 (column_fits c)) s keyByte).get j =
      s.get j ^^^ byteMul rsModulus ((rs.get j).get c) keyByte := by
  have hcolumns : ∀ (c : Fin 8) (j : Fin 4),
      rsPower ((arrayRef rsMatrix (c.val * 4) 4 (column_fits c)).get j).toNat = (rs.get j).get c := by
    decide +kernel
  by_cases hzero : keyByte = 0
  · subst hzero
    rw [rsMulColumn, if_neg (not_not.mpr rfl), byteMul_zero, UInt8.xor_zero]
  · have hmem : (arrayRef rsMatrix (c.val * 4) 4 (column_fits c)).get j ∈ rsMatrix.toList := by
      rw [arrayRef, get_ofFn]
      exact mem_toList _ _
    rw [rsMulColumn, if_pos hzero, get_ofFn, rsPower_add (rsExponent_add_lt hmem keyByte),
      rsPower_rsExponent hzero, hcolumns, byteMul_comm]

variable {chunks : ℕ} (key : Vector UInt8 (chunks * 8))

/-- Adding the columns one by one is the product by rows. -/
theorem rsChunk_eq (i : Fin chunks) :
    rsChunk key i = multiply rsModulus rs (arrayRef key (i.val * 8) 8 (by omega)) := by
  have hfold (j : Fin 4) (cs : List (Fin 8)) (s : Vector UInt8 4) :
      (cs.foldl (fun s c => rsMulColumn (arrayRef rsMatrix (c.val * 4) 4 (column_fits c)) s
        (key.get ⟨i.val * 8 + c.val, by omega⟩)) s).get j =
      cs.foldl (fun sum c => sum ^^^ byteMul rsModulus ((rs.get j).get c)
        ((arrayRef key (i.val * 8) 8 (by omega)).get c)) (s.get j) := by
    induction cs generalizing s with
    | nil => rfl
    | cons c cs ih =>
      rw [List.foldl_cons, List.foldl_cons, ih, get_rsMulColumn]
      simp only [arrayRef, get_ofFn]
  have hget (j : Fin 4) : (rsChunk key i).get j =
      (multiply rsModulus rs (arrayRef key (i.val * 8) 8 (by omega))).get j := by
    have hstart : (#v[0, 0, 0, 0] : Vector UInt8 4).get j = 0 := by revert j; decide
    rw [rsChunk, hfold, multiply, get_ofFn, hstart]
  exact vector_four (hget 0) (hget 1) (hget 2) (hget 3)

theorem arrayRef_rsBytes (i : Fin chunks) :
    arrayRef (rsBytes key) (i.val * 4) 4 (by omega) = rsChunk key i.rev := by
  have hget (j : Fin 4) : (arrayRef (rsBytes key) (i.val * 4) 4 (by omega)).get j =
      (rsChunk key i.rev).get j := by
    rw [arrayRef, get_ofFn, rsBytes, get_ofFn]
    congr 2
    · apply Fin.ext
      simp only [Fin.val_rev]
      omega
    · change (i.val * 4 + j.val) % 4 = j.val
      omega
  exact vector_four (hget 0) (hget 1) (hget 2) (hget 3)

theorem sWords_eq : sWords key =
    (List.finRange chunks).map fun i => arrayRef (rsBytes key) (i.val * 4) 4 (by omega) := by
  rw [sWords, ← List.map_reverse, List.finRange_reverse, List.map_map]
  apply List.map_congr_left
  intro i _
  rw [arrayRef_rsBytes, rsChunk_eq]
  rfl
end KeyWords

section Rounds

/-- A column depends on one byte. -/
theorem get_layers_congr {L : List (Vector UInt8 4)} {i : ℕ} {x y : Vector UInt8 4} {j : Fin 4}
    (h : x.get j = y.get j) : (layers i L x).get j = (layers i L y).get j := by
  induction L generalizing i with
  | nil => exact h
  | cons l ls ih => simp only [layers, permute, get_ofFn, ih]

theorem get_splat (b : UInt8) (j : Fin 4) : (splat b).get j = b := by
  match j with
  | 0 | 1 | 2 | 3 => rfl

/-- The tables of a context hold the columns of `h` for every byte. -/
theorem g_eq {s : Vector (Vector UInt32 256) 4} {L : List (Vector UInt8 4)}
    (hs : ∀ row x, entry (s.get row) x = (columns L (splat x)).get row) (x : UInt32) :
    g s x = h L (Vector.ofFn fun j => (toLeBytes x).getD j 0) := by
  have hcolumn (row : Fin 4) : entry (s.get row) ((toLeBytes x).getD row 0) =
      (columns L (Vector.ofFn fun j => (toLeBytes x).getD j 0)).get row := by
    rw [hs, columns, columns, get_ofFn, get_ofFn]
    congr 2
    apply get_layers_congr
    rw [get_splat, get_ofFn]
  rw [← unsplat_columns, unsplat, ← hcolumn 0, ← hcolumn 1, ← hcolumn 2, ← hcolumn 3]
  rfl

theorem shiftLeft_one (x : UInt32) : x <<< 1 = 2 * x := by
  apply UInt32.toNat_inj.mp
  rw [UInt32.toNat_shiftLeft, UInt32.toNat_mul, mul_comm, Nat.shiftLeft_eq]
  rfl

theorem composeAlong_pairs {β : Type} (F : ℕ → β → β) (n : ℕ) (b : β) :
    composeAlong F (List.range (2 * n)) b =
      composeAlong (fun i b => F (2 * i + 1) (F (2 * i) b)) (List.range n) b := by
  induction n with
  | zero => rfl
  | succ n ih =>
    have hnext : 2 * (n + 1) = 2 * n + 1 + 1 := by omega
    rw [hnext, List.range_succ, List.range_succ, List.range_succ, composeAlong_append,
      composeAlong_append, composeAlong_append, ih]
    rfl

variable {chunks : ℕ}

/-- The function of a key schedule whose key has every second word left out. -/
def Skips (hfunc : Vector UInt8 4 → Vector UInt8 (chunks * 8 - 4) → Vector UInt32 4) : Prop :=
  ∀ x K, hfunc x K =
    columns ((List.finRange chunks).map fun i => arrayRef K (i.val * 8) 4 (by omega)) x

/-- The function of a key schedule with all words of its key. -/
def NoSkips (hnoskipfunc : Vector UInt8 4 → Vector UInt8 (chunks * 4) → Vector UInt32 4) : Prop :=
  ∀ x K, hnoskipfunc x K =
    columns ((List.finRange chunks).map fun i => arrayRef K (i.val * 4) 4 (by omega)) x

variable {hfunc : Vector UInt8 4 → Vector UInt8 (chunks * 8 - 4) → Vector UInt32 4}
  {hnoskipfunc : Vector UInt8 4 → Vector UInt8 (chunks * 4) → Vector UInt32 4}
  {hkey : 4 ≤ chunks * 8} {key : Vector UInt8 (chunks * 8)}

theorem get_subkeys (hskips : Skips hfunc) (first count : ℕ) (p : Fin count) :
    (subkeys (subkeyPair hfunc hkey key) first count).get p = subkey key (2 * first + p) := by
  have heven (x : Vector UInt8 4) :
      unsplat (hfunc x (arrayRef key 0 (chunks * 8 - 4) (by omega))) = h (evenWords key) x := by
    rw [hskips, unsplat_columns, evenWords]
    congr 1
    exact List.map_congr_left fun i _ => arrayRef_arrayRef (Nat.zero_add _).symm
  have hodd (x : Vector UInt8 4) :
      unsplat (hfunc x (arrayRef key 4 (chunks * 8 - 4) (by omega))) = h (oddWords key) x := by
    rw [hskips, unsplat_columns, oddWords]
    congr 1
    exact List.map_congr_left fun i _ => arrayRef_arrayRef rfl
  have hhalf : (2 * first + p.val) / 2 = first + p.val / 2 := by omega
  have hparity : (2 * first + p.val) % 2 = p.val % 2 := by omega
  rw [subkeys, get_ofFn, subkey, hhalf, hparity, subkeyPair, heven, hodd, shiftLeft_one]

/-- The S-boxes of a context hold the columns of `h` for every byte. -/
theorem gWord_eq (hnoskips : NoSkips hnoskipfunc) (x : UInt32) :
    g (defineTwofishNew hfunc hnoskipfunc hkey key).s x = gWord key x := by
  apply g_eq
  intro row x
  rw [sWords_eq, ← hnoskips, entry, defineTwofishNew, get_ofFn, get_ofFn, UInt8.ofNat_toNat]

/-- Two rounds that exchange the halves are a pass of the loop. -/
theorem encryptRounds_eq (hskips : Skips hfunc) (hnoskips : NoSkips hnoskipfunc) (i : Fin 8)
    (r : Registers) : (defineTwofishNew hfunc hnoskipfunc hkey key).encryptRounds i r =
      round key (2 * i.val + 1) (round key (2 * i.val) r) := by
  have hk (p : Fin 32) : (defineTwofishNew hfunc hnoskipfunc hkey key).k.get p =
      subkey key (p.val + 8) := by
    rw [Nat.add_comm]
    exact get_subkeys hskips 4 32 p
  have hf (n : ℕ) (hn : n + 1 < 32) (r0 r1 : UInt32) :
      (defineTwofishNew hfunc hnoskipfunc hkey key).f n hn r0 r1 =
        (gWord key r0 + gWord key (rotateLeft r1 8) + subkey key (n + 8),
          gWord key r0 + 2 * gWord key (rotateLeft r1 8) + subkey key (n + 9)) := by
    rw [Twofish.f, gWord_eq hnoskips, gWord_eq hnoskips, hk, hk, shiftLeft_one]
  have heven : 2 * (2 * i.val) = 4 * i.val := by omega
  have hodd : 2 * (2 * i.val + 1) = 4 * i.val + 2 := by omega
  rw [Twofish.encryptRounds, hf, hf]
  simp only [round, heven, hodd]

theorem encrypt_eq (hskips : Skips hfunc) (hnoskips : NoSkips hnoskipfunc) (i : Bytes) :
    (defineTwofishNew hfunc hnoskipfunc hkey key).encrypt i = encrypt key i := by
  have hw (p : Fin 8) : (defineTwofishNew hfunc hnoskipfunc hkey key).w.get p =
      subkey key (0 + p.val) := get_subkeys hskips 0 8 p
  have hpass : (defineTwofishNew hfunc hnoskipfunc hkey key).encryptRounds = fun i r =>
      round key (2 * i.val + 1) (round key (2 * i.val) r) :=
    funext fun i => funext (encryptRounds_eq hskips hnoskips i)
  have hrounds (R : Registers) :
      composeAlong (defineTwofishNew hfunc hnoskipfunc hkey key).encryptRounds (List.finRange 8) R =
        composeAlong (round key) (List.range 16) R := by
    rw [composeAlong_pairs _ 8, ← List.map_coe_finRange_eq_range, composeAlong_map, hpass]
  rw [Twofish.encrypt, encrypt, hrounds]
  simp only [hw]
  rfl

/-- For every key of every size and every block, the tables compute the cipher as it is defined. -/
theorem twofish_standard :
    (∀ key i, (Twofish.new128 key).encrypt i = encrypt key i) ∧
    (∀ key i, (Twofish.new192 key).encrypt i = encrypt key i) ∧
    (∀ key i, (Twofish.new256 key).encrypt i = encrypt key i) := by
  refine ⟨fun key i => encrypt_eq ?_ ?_ i, fun key i => encrypt_eq ?_ ?_ i,
    fun key i => encrypt_eq ?_ ?_ i⟩
  · exact h128_eq
  · exact h128NoSkip_eq
  · exact h192_eq
  · exact h192NoSkip_eq
  · exact h256_eq
  · exact h256NoSkip_eq
end Rounds

end Oxhide.TwofishStandard
