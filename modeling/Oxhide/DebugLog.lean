import Oxhide.DecimalNumerals
import Oxhide.SliceCopies
import Oxhide.WordBytes

/-! # Messages for the kernel debugger

A message is copied into a buffer of fixed size, a number behind it and a zero behind
that. Every copy is between ranges of fixed lengths, and one that does not fit stops the
kernel: `none`. What is returned is the buffer that is passed to `DbgPrintEx`. -/
namespace Oxhide.DebugLog
open DecimalNumerals ListSplice SliceCopies WordBytes

def maxMessage : ℕ := 260

/-- The buffer with the message, cut off where it leaves room for a number. -/
def messageBuffer (msg : Bytes) : Option Bytes := do
  let len := min msg.length maxMessage
  copyInto (List.replicate 300 0) 0 len (← prefixSlice msg len)

section Status

/-- `b" status=0x"`. -/
def statusLabel : Bytes := [0x20, 0x73, 0x74, 0x61, 0x74, 0x75, 0x73, 0x3D, 0x30, 0x78]

def hexDigit (nibble : UInt8) : UInt8 :=
  if nibble < 10 then 0x30 + nibble else 0x41 + nibble - 10

/-- The stores of the digits `0, …, n - 1`, behind a label of eleven bytes. -/
def storeHexDigits (v : UInt32) (buf : Bytes) : ℕ → Option Bytes
  | 0 => some buf
  | i + 1 => do
    let buf ← storeHexDigits v buf i
    let nibble := ((v >>> UInt32.ofNat (28 - i * 4)) &&& 0xF).toUInt8
    store buf (11 + i) (hexDigit nibble)

def formatHexStatus (val : Int32) : Option Bytes := do
  let buf ← copyInto (List.replicate 19 0) 0 11 statusLabel
  storeHexDigits val.toUInt32 buf 8

def kdbgStatus (msg : Bytes) (status : Int32) : Option Bytes := do
  let len := min msg.length maxMessage
  let buf ← messageBuffer msg
  let s ← formatHexStatus status
  let total := len + 19
  let buf ← copyInto buf len total (← prefixSlice s 19)
  store buf total 0

/-- The value of a hexadecimal digit. -/
def hexDigitValue (b : UInt8) : Option ℕ :=
  if 0x30 ≤ b ∧ b ≤ 0x39 then some (b.toNat - 0x30)
  else if 0x41 ≤ b ∧ b ≤ 0x46 then some (b.toNat - 0x41 + 10)
  else none

def parseHex (digits : Bytes) : Option ℕ :=
  (digits.mapM hexDigitValue).map fun ds => ds.foldl (fun v d => 16 * v + d) 0

/-- The message and the status reach the debugger. -/
def StatusLogged (msg : Bytes) (status : Int32) : Prop :=
  ∃ buf digits, kdbgStatus msg status = some buf ∧
    msg.take maxMessage ++ statusLabel ++ digits ++ [0] <+: buf ∧ digits.length = 8 ∧
    parseHex digits = some status.toUInt32.toNat

/-- The label has ten bytes and the range it is copied to eleven. -/
theorem formatHexStatus_eq_none (val : Int32) : formatHexStatus val = none := by
  have hlabel : statusLabel.length ≠ 11 - 0 := by decide
  rw [formatHexStatus, copyInto_of_length_ne hlabel]
  rfl

theorem kdbgStatus_eq_none (msg : Bytes) (status : Int32) : kdbgStatus msg status = none := by
  rw [kdbgStatus, formatHexStatus_eq_none]
  cases messageBuffer msg <;> rfl

/-- No status is ever logged: every call stops the kernel. -/
theorem not_statusLogged (msg : Bytes) (status : Int32) : ¬ StatusLogged msg status := by
  rintro ⟨buf, digits, hcall, -⟩
  rw [kdbgStatus_eq_none] at hcall
  cases hcall

/-- The call of `open_host_file` behind `ZwCreateFile`, for a success. -/
theorem zwCreateFile_not_statusLogged :
    let msg := "[Oxhide] ZwCreateFile = ".toUTF8.toList
    kdbgStatus msg 0 = none ∧ ¬ StatusLogged msg 0 := by
  refine ⟨kdbgStatus_eq_none _ 0, ?_⟩
  rintro ⟨buf, digits, hcall, -⟩
  rw [kdbgStatus_eq_none] at hcall
  cases hcall

end Status

section Number

/-- The digits of `val` from the last to the first, stored from position `n` on, and the
position behind them. -/
def digitLoop (val : UInt64) (digits : Bytes) (n : ℕ) : Option (Bytes × ℕ) :=
  if h : val = 0 then some (digits, n)
  else do
    let digits ← store digits n (0x30 + (val % 10).toUInt8)
    digitLoop (val / 10) digits (n + 1)
termination_by val.toNat
decreasing_by
  have hpos : val.toNat ≠ 0 := fun hzero => h (UInt64.toNat_inj.mp hzero)
  rw [UInt64.toNat_div]
  exact Nat.div_lt_self (by omega) (by decide)

/-- The stores of the digits `0, …, i - 1` of `n`, in reverse order. -/
def reverseLoop (digits : Bytes) (n : ℕ) (buf : Bytes) : ℕ → Option Bytes
  | 0 => some buf
  | i + 1 => do
    let buf ← reverseLoop digits n buf i
    store buf (1 + i) (← digits[n - 1 - i]?)

def formatU64 (val : UInt64) : Option Bytes :=
  let buf := List.replicate 21 0
  if val = 0 then do
    let buf ← store buf 0 0x20
    store buf 1 0x30
  else do
    let (digits, n) ← digitLoop val (List.replicate 20 0) 0
    let buf ← store buf 0 0x20
    reverseLoop digits n buf n

/-- The scan for the length of the number. -/
def numberLen (s : Bytes) (slen : ℕ) : Option ℕ :=
  if slen < 20 then do
    let b ← s[slen]?
    if b ≠ 0 then numberLen s (slen + 1) else return slen
  else
    some slen
termination_by 20 - slen

def kdbgU64 (msg : Bytes) (val : UInt64) : Option Bytes := do
  let len := min msg.length maxMessage
  let buf ← messageBuffer msg
  let s ← formatU64 val
  let slen ← numberLen s 1
  let total := len + slen
  let buf ← copyInto buf len total (← prefixSlice s slen)
  store buf total 0

/-- The value of a decimal digit. -/
def digitValue (b : UInt8) : Option ℕ :=
  if 0x30 ≤ b ∧ b ≤ 0x39 then some (b.toNat - 0x30) else none

def parseDecimal (text : Bytes) : Option ℕ := (text.mapM digitValue).map value

/-- A decimal numeral without leading zeros. -/
structure DecimalText (text : Bytes) (v : ℕ) : Prop where
  nonempty : text ≠ []
  noLeadingZero : text.head? = some 0x30 → text = [0x30]
  parses : parseDecimal text = some v

/-- The message and the number reach the debugger: behind the message and a blank stands
the numeral, and a zero behind that. -/
def U64Logged (msg : Bytes) (val : UInt64) : Prop :=
  ∃ buf text, kdbgU64 msg val = some buf ∧
    msg.take maxMessage ++ 0x20 :: text ++ [0] <+: buf ∧ DecimalText text val.toNat

/-! The digits as they stand in the buffers. -/

def digitByte (d : ℕ) : UInt8 := UInt8.ofNat (0x30 + d)

def numberText (v : ℕ) : Bytes := (numeral v).map digitByte

theorem toNat_digitByte {d : ℕ} (h : d < 10) : (digitByte d).toNat = 0x30 + d := by
  have hsize : UInt8.size = 256 := rfl
  rw [digitByte, UInt8.toNat_ofNat_of_lt' (by omega)]

theorem digitByte_ne_zero {d : ℕ} (h : d < 10) : digitByte d ≠ 0 := by
  intro hzero
  have hval := congrArg UInt8.toNat hzero
  rw [toNat_digitByte h] at hval
  have hnull : (0 : UInt8).toNat = 0 := rfl
  omega

theorem digitValue_digitByte {d : ℕ} (h : d < 10) : digitValue (digitByte d) = some d := by
  have hlow : (0x30 : UInt8) ≤ digitByte d := by
    rw [UInt8.le_iff_toNat_le, toNat_digitByte h]
    exact Nat.le_add_right _ _
  have hhigh : digitByte d ≤ (0x39 : UInt8) := by
    have hnine : (0x39 : UInt8).toNat = 0x39 := rfl
    rw [UInt8.le_iff_toNat_le, toNat_digitByte h, hnine]
    omega
  rw [digitValue, if_pos ⟨hlow, hhigh⟩, toNat_digitByte h, Nat.add_sub_cancel_left]

theorem parseDecimal_map_digitByte {ds : List ℕ} (h : ∀ d ∈ ds, d < 10) :
    parseDecimal (ds.map digitByte) = some (value ds) := by
  have hdigits : (ds.map digitByte).mapM digitValue = some ds := by
    induction ds with
    | nil => rfl
    | cons d ds ih =>
      rw [List.map_cons, List.mapM_cons, digitValue_digitByte (h d List.mem_cons_self),
        ih fun d' hd' => h d' (List.mem_cons_of_mem d hd')]
      rfl
  rw [parseDecimal, hdigits]
  rfl

theorem ne_zero_of_mem_numberText {v : ℕ} {b : UInt8} (h : b ∈ numberText v) : b ≠ 0 := by
  obtain ⟨d, hd, rfl⟩ := List.mem_map.mp h
  exact digitByte_ne_zero (lt_ten_of_mem_numeral hd)

/-- The digits of a number are a numeral without leading zeros. -/
theorem decimalText_numberText (v : ℕ) : DecimalText (numberText v) v := by
  refine ⟨?_, ?_, ?_⟩
  · intro hnil
    exact numeral_ne_nil v (List.map_eq_nil_iff.mp hnil)
  · intro hhead
    rw [numberText, List.head?_map, Option.map_eq_some_iff] at hhead
    obtain ⟨d, hd, hbyte⟩ := hhead
    have hlt := lt_ten_of_mem_numeral (List.mem_of_mem_head? hd)
    have hval := congrArg UInt8.toNat hbyte
    rw [toNat_digitByte hlt] at hval
    have hzero : d = 0 := by
      have hnull : (0x30 : UInt8).toNat = 0x30 := rfl
      omega
    have hv : v = 0 := numeral_of_head?_eq_zero (hzero ▸ hd)
    rw [hv]
    rfl
  · rw [numberText, parseDecimal_map_digitByte fun d hd => lt_ten_of_mem_numeral hd, value_numeral]

/-! The loops. -/

/-- The loop stores the digits of the number, the last one first. -/
theorem digitLoop_eq (val : UInt64) (digits : Bytes) (n : ℕ)
    (hfits : n + (Nat.digits 10 val.toNat).length ≤ digits.length) :
    digitLoop val digits n =
      some (splice digits n ((Nat.digits 10 val.toNat).map digitByte),
        n + (Nat.digits 10 val.toNat).length) := by
  induction val, digits, n using digitLoop.induct with
  | case1 digits n => simp [digitLoop]
  | case2 val digits n hval ih =>
    have hpos : val.toNat ≠ 0 := fun hzero => hval (UInt64.toNat_inj.mp hzero)
    have hdiv : (val / 10).toNat = val.toNat / 10 := UInt64.toNat_div val 10
    have hdigits : Nat.digits 10 val.toNat =
        val.toNat % 10 :: Nat.digits 10 (val.toNat / 10) :=
      Nat.digits_def' (by omega) (by omega)
    have hbyte : 0x30 + (val % 10).toUInt8 = digitByte (val.toNat % 10) := by
      have hten : (10 : UInt64).toNat = 10 := rfl
      have hbase : (0x30 : UInt8).toNat = 0x30 := rfl
      apply UInt8.toNat_inj.mp
      rw [toNat_digitByte (Nat.mod_lt _ (by omega)), UInt8.toNat_add, UInt64.toNat_toUInt8,
        UInt64.toNat_mod, hten, hbase]
      omega
    rw [hdigits, List.length_cons] at hfits
    have hin : n < digits.length := by omega
    have hrest : n + 1 + (Nat.digits 10 (val / 10).toNat).length ≤
        (splice digits n [digitByte (val.toNat % 10)]).length := by
      rw [length_splice (by rw [List.length_singleton]; omega), hdiv]
      omega
    rw [digitLoop, dif_neg hval, hbyte, store_of_lt hin, set_eq_splice hin]
    refine (ih _ hrest).trans ?_
    have hstored : splice (splice digits n [digitByte (val.toNat % 10)]) (n + 1)
          ((Nat.digits 10 (val.toNat / 10)).map digitByte) =
        splice digits n ((Nat.digits 10 val.toNat).map digitByte) := by
      rw [hdigits, List.map_cons]
      exact (splice_append [_] _ hin.le).symm
    rw [hdiv, hstored, hdigits, List.length_cons, Nat.add_right_comm, Nat.add_assoc]

/-- The second loop copies the first digits of the reversed number. -/
theorem reverseLoop_eq {digits buf ds : Bytes} (hds : ds <+: digits)
    (hroom : ds.length < buf.length) {i : ℕ} (hi : i ≤ ds.length) :
    reverseLoop digits ds.length buf i = some (splice buf 1 (ds.reverse.take i)) := by
  induction i with
  | zero => simp [reverseLoop]
  | succ i ih =>
    have hlen : (ds.reverse.take i).length = i := by
      rw [List.length_take, List.length_reverse]
      omega
    have hbuf : (splice buf 1 (ds.reverse.take i)).length = buf.length :=
      length_splice (by omega)
    have hin : 1 + i < (splice buf 1 (ds.reverse.take i)).length := by omega
    have hindex : ds.length - 1 - i < ds.length := by omega
    have hrev : i < ds.reverse.length := by
      rw [List.length_reverse]
      omega
    have hdigit : digits[ds.length - 1 - i]? = some ds.reverse[i] := by
      rw [List.getElem_reverse]
      obtain ⟨rest, rfl⟩ := hds
      rw [List.getElem?_append_left hindex, List.getElem?_eq_getElem hindex]
    rw [reverseLoop, ih (by omega), hdigit]
    refine (store_of_lt hin).trans ?_
    rw [set_eq_splice hin, List.take_succ_eq_append_getElem hrev, splice_append _ _ (by omega),
      hlen]

private theorem length_digits_le (val : UInt64) : (Nat.digits 10 val.toNat).length ≤ 20 :=
  (Nat.digits_length_le_iff (by omega) _).mpr (val.toNat_lt.trans (by norm_num))

/-- A blank, the numeral and zeros. -/
theorem formatU64_eq (val : UInt64) :
    formatU64 val = some (0x20 :: numberText val.toNat ++
      List.replicate (20 - (numberText val.toNat).length) 0) := by
  rw [formatU64]
  by_cases hval : val = 0
  · subst hval
    rfl
  · have hpos : val.toNat ≠ 0 := fun hzero => hval (UInt64.toNat_inj.mp hzero)
    have hle := length_digits_le val
    have hloop := digitLoop_eq val (List.replicate 20 0) 0 (by rw [List.length_replicate]; omega)
    have hds : ((Nat.digits 10 val.toNat).map digitByte).length =
        (Nat.digits 10 val.toNat).length := List.length_map _
    have htext : ((Nat.digits 10 val.toNat).map digitByte).reverse = numberText val.toNat := by
      rw [numberText, numeral_of_ne_zero hpos, List.map_reverse]
    have hlen : (numberText val.toNat).length = (Nat.digits 10 val.toNat).length := by
      rw [← htext, List.length_reverse, hds]
    have hblank : store (List.replicate 21 (0 : UInt8)) 0 0x20 =
        some ([0x20] ++ (List.replicate 21 0).drop 1) := rfl
    have hdigits : (Nat.digits 10 val.toNat).map digitByte <+:
        splice (List.replicate 20 0) 0 ((Nat.digits 10 val.toNat).map digitByte) := ⟨_, rfl⟩
    have hroom : ((Nat.digits 10 val.toNat).map digitByte).length <
        ([0x20] ++ (List.replicate 21 (0 : UInt8)).drop 1).length := by
      rw [hds]
      exact Nat.lt_succ_of_le hle
    have hreverse := reverseLoop_eq hdigits hroom le_rfl
    have hzeros : (List.replicate 21 (0 : UInt8)).drop (1 + (numberText val.toNat).length) =
        List.replicate (20 - (numberText val.toNat).length) 0 := by
      rw [List.drop_replicate]
      congr 1
      omega
    have hone : ([0x20] : Bytes).length = 1 := rfl
    rw [htext, List.take_of_length_le (by omega), hds, splice_append_drop hone, hzeros] at hreverse
    rw [if_neg hval]
    simp only [hloop, hblank, Nat.zero_add, Option.bind_eq_bind, Option.bind_some]
    rw [hreverse, List.singleton_append]

/-- The scan stops at the first zero, and behind nineteen digits. -/
theorem numberLen_eq {text : Bytes} (htext : ∀ b ∈ text, b ≠ 0) (hlen : text.length ≤ 20)
    {slen : ℕ} (hslen : 1 ≤ slen) (hin : slen ≤ min 20 (1 + text.length)) :
    numberLen (0x20 :: text ++ List.replicate (20 - text.length) 0) slen =
      some (min 20 (1 + text.length)) := by
  induction hd : 20 - slen generalizing slen with
  | zero =>
    rw [numberLen, if_neg (by omega)]
    congr 1
    omega
  | succ d ih =>
    have hcons : (0x20 :: text ++ List.replicate (20 - text.length) (0 : UInt8))[slen]? =
        (text ++ List.replicate (20 - text.length) 0)[slen - 1]? := by
      obtain ⟨i, rfl⟩ := Nat.exists_eq_add_of_le' hslen
      rfl
    rw [numberLen, if_pos (by omega), hcons]
    by_cases hdigit : slen < 1 + text.length
    · have hindex : slen - 1 < text.length := by omega
      have hne : text[slen - 1] ≠ 0 := htext _ (List.getElem_mem hindex)
      rw [List.getElem?_append_left hindex, List.getElem?_eq_getElem hindex]
      refine (if_pos hne).trans ?_
      exact ih (by omega) (by omega) (by omega)
    · have hend : slen = 1 + text.length := by omega
      rw [List.getElem?_append_right (by omega), List.getElem?_replicate, if_pos (by omega)]
      change some slen = _
      congr 1
      omega

theorem messageBuffer_eq (msg : Bytes) : messageBuffer msg =
    some (msg.take maxMessage ++ (List.replicate 300 0).drop (msg.take maxMessage).length) := by
  have hlen : (msg.take maxMessage).length = min msg.length maxMessage := by
    rw [List.length_take, Nat.min_comm]
  have hprefix : prefixSlice msg (min msg.length maxMessage) = some (msg.take maxMessage) := by
    rw [prefixSlice_of_le (Nat.min_le_left _ _), Option.some_inj, List.take_eq_take_iff]
    omega
  have hfits : ([] : Bytes).length + (msg.take maxMessage).length ≤
      (List.replicate 300 (0 : UInt8)).length := by
    rw [hlen, List.length_replicate, List.length_nil, maxMessage]
    omega
  have hcopy := copyInto_append hfits
  rw [hlen, List.length_nil, Nat.zero_add] at hcopy
  rw [messageBuffer, hprefix]
  exact hcopy

/-- What the debugger receives: at most nineteen digits of the number. -/
theorem kdbgU64_eq (msg : Bytes) (val : UInt64) : ∃ zeros,
    kdbgU64 msg val = some (msg.take maxMessage ++ 0x20 :: (numberText val.toNat).take 19 ++ [0] ++
      zeros) := by
  have hlen : (msg.take maxMessage).length = min msg.length maxMessage := by
    rw [List.length_take, Nat.min_comm]
  have hdigits : (numberText val.toNat).length ≤ 20 := by
    rw [numberText, List.length_map]
    exact (length_numeral_le_iff (by omega)).mpr (val.toNat_lt.trans (by norm_num))
  have hnumber := numberLen_eq (fun b => ne_zero_of_mem_numberText) hdigits le_rfl (by omega)
  have hshown : (0x20 :: (numberText val.toNat).take 19).length =
      min 20 (1 + (numberText val.toNat).length) := by
    rw [List.length_cons, List.length_take]
    omega
  have hprefix : prefixSlice (0x20 :: numberText val.toNat ++
        List.replicate (20 - (numberText val.toNat).length) 0)
      (min 20 (1 + (numberText val.toNat).length)) =
      some (0x20 :: (numberText val.toNat).take 19) := by
    have hcons : (0x20 :: numberText val.toNat).length = 1 + (numberText val.toNat).length :=
      Nat.add_comm _ _
    have hle : min 20 (1 + (numberText val.toNat).length) ≤
        (0x20 :: numberText val.toNat).length := hcons ▸ Nat.min_le_right _ _
    have htake : (0x20 :: (numberText val.toNat).take 19) = (0x20 :: numberText val.toNat).take 20 :=
      rfl
    rw [prefixSlice_of_le (hle.trans (by rw [List.length_append]; omega)), Option.some_inj,
      List.take_append_of_le_length hle, htake, List.take_eq_take_iff]
    omega
  have hroom : (msg.take maxMessage).length + (0x20 :: (numberText val.toNat).take 19).length + 1 ≤
      (List.replicate 300 (0 : UInt8)).length := by
    rw [hlen, hshown, List.length_replicate, maxMessage]
    omega
  refine ⟨(List.replicate 300 0).drop (msg.take maxMessage ++
    0x20 :: (numberText val.toNat).take 19 ++ [0]).length, ?_⟩
  simp only [kdbgU64, messageBuffer_eq, formatU64_eq, hnumber, hprefix, Option.bind_eq_bind,
    Option.bind_some]
  rw [← hlen, ← hshown, copyInto_append (by omega), Option.bind_some, ← List.length_append]
  exact store_append (by rw [List.length_append]; omega)

theorem zero_notMem_of_parseDecimal {text : Bytes} {v : ℕ} (h : parseDecimal text = some v) :
    ∀ b ∈ text, b ≠ 0 := by
  obtain ⟨ds, hds, -⟩ := Option.map_eq_some_iff.mp h
  clear h
  induction text generalizing ds with
  | nil => simp
  | cons b text ih =>
    have hzero : digitValue 0 = none := by decide
    rw [List.mapM_cons] at hds
    obtain ⟨d, hd, hrest⟩ := Option.bind_eq_some_iff.mp hds
    obtain ⟨ds', hds', -⟩ := Option.bind_eq_some_iff.mp hrest
    intro c hc
    rcases List.mem_cons.mp hc with rfl | hc
    · rintro rfl
      rw [hzero] at hd
      cases hd
    · exact ih ds' hds' c hc

/-- Texts without zeros that are followed by one are told apart by their buffers. -/
theorem eq_of_zero_terminated {xs ys zs : Bytes} (hxs : ∀ b ∈ xs, b ≠ 0) (hys : ∀ b ∈ ys, b ≠ 0)
    (h : xs ++ [0] <+: ys ++ [0] ++ zs) : xs = ys := by
  obtain ⟨rest, hrest⟩ := h
  have hcut (ws vs : Bytes) (hws : ∀ b ∈ ws, b ≠ 0) :
      (ws ++ [0] ++ vs).takeWhile (· ≠ 0) = ws := by
    rw [List.append_assoc, List.takeWhile_append_of_pos (fun b hb => by simpa using hws b hb)]
    simp
  calc xs = (xs ++ [0] ++ rest).takeWhile (· ≠ 0) := (hcut xs rest hxs).symm
    _ = (ys ++ [0] ++ zs).takeWhile (· ≠ 0) := by rw [hrest]
    _ = ys := hcut ys zs hys

/-- Of a number with twenty digits the last one is dropped. -/
theorem take_numberText {v : ℕ} (hlow : 10 ^ 19 ≤ v) (hhigh : v < 10 ^ 20) :
    (numberText v).take 19 = numberText (v / 10) := by
  have hle : (numeral (v / 10)).length ≤ 19 := (length_numeral_le_iff (by omega)).mpr (by omega)
  have hge : ¬ (numeral (v / 10)).length ≤ 18 := by
    rw [length_numeral_le_iff (by omega)]
    omega
  have hlen : ((numeral (v / 10)).map digitByte).length = 19 := by
    rw [List.length_map]
    omega
  rw [numberText, numberText, numeral_of_ten_le (by omega), List.map_append,
    List.take_left' hlen]

private theorem not_u64Logged_of_le {msg : Bytes} {val : UInt64} (hlarge : 10 ^ 19 ≤ val.toNat) :
    ¬ U64Logged msg val := by
  obtain ⟨zeros, hcall⟩ := kdbgU64_eq msg val
  rintro ⟨buf, text, hbuf, hprefix, htext⟩
  rw [hcall] at hbuf
  obtain rfl := Option.some.inj hbuf
  rw [take_numberText hlarge (val.toNat_lt.trans (by norm_num)), List.append_assoc,
    List.append_assoc, List.append_assoc, List.prefix_append_right_inj, List.cons_append,
    List.cons_append, List.prefix_cons_inj, ← List.append_assoc] at hprefix
  have hsame := eq_of_zero_terminated (zero_notMem_of_parseDecimal htext.parses)
    (fun b => ne_zero_of_mem_numberText) hprefix
  have hparses := htext.parses
  rw [hsame, (decimalText_numberText _).parses] at hparses
  have hval := Option.some.inj hparses
  omega

/-- Numbers are logged faithfully exactly up to nineteen digits. -/
theorem u64Logged_iff (msg : Bytes) (val : UInt64) :
    U64Logged msg val ↔ val.toNat < 10 ^ 19 := by
  constructor
  · intro hlogged
    by_contra hlarge
    exact not_u64Logged_of_le (Nat.not_lt.mp hlarge) hlogged
  · intro hsmall
    obtain ⟨zeros, hcall⟩ := kdbgU64_eq msg val
    have hlen : (numberText val.toNat).length ≤ 19 := by
      rw [numberText, List.length_map]
      exact (length_numeral_le_iff (by omega)).mpr hsmall
    rw [List.take_of_length_le hlen] at hcall
    exact ⟨_, _, hcall, List.prefix_append _ _, decimalText_numberText _⟩

/-- The largest number loses its last digit. -/
theorem largestU64_not_logged :
    (∃ zeros, kdbgU64 [0x6E] 18446744073709551615 =
        some (0x6E :: 0x20 :: numberText 1844674407370955161 ++ [0] ++ zeros)) ∧
      ¬ U64Logged [0x6E] 18446744073709551615 := by
  have hval : (18446744073709551615 : UInt64).toNat = 18446744073709551615 := rfl
  have hlarge : 10 ^ 19 ≤ (18446744073709551615 : UInt64).toNat := by
    rw [hval]
    norm_num
  obtain ⟨zeros, hcall⟩ := kdbgU64_eq [0x6E] 18446744073709551615
  rw [take_numberText hlarge (by rw [hval]; norm_num), hval] at hcall
  exact ⟨⟨zeros, hcall⟩, not_u64Logged_of_le hlarge⟩

end Number

end Oxhide.DebugLog
