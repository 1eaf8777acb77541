import ClientGen.File.Tree

/-!
# Texts in files

A text that is written into a file is read back, unless it holds a line end other than a line feed:
reading turns every line end into a line feed.

## Main results

* `Tree.decode_encode` — what a text is encoded in is decoded to the text.
* `Tree.textOf_encode` — a text without carriage returns is read back from its file.
-/

namespace ClientGen

theorem Text.unifyLineEnds_of_notMem {cs : List Char} (h : '\r' ∉ cs) : unifyLineEnds cs = cs := by
  induction cs with
  | nil => rfl
  | cons c rest ih =>
    obtain ⟨hc, hrest⟩ := List.ne_and_not_mem_of_not_mem_cons h
    rw [unifyLineEnds, ih hrest]
    · exact fun _ heq => absurd heq.symm hc
    · exact fun heq => absurd heq.symm hc

namespace Tree

theorem toList_loop (bytes : ByteArray) (start : Nat) (done : List UInt8) :
    ByteArray.toList.loop bytes start done = done.reverse ++ bytes.data.toList.drop start := by
  fun_induction ByteArray.toList.loop bytes start done with
  | case1 start done hlt ih =>
    have hlength : start < bytes.data.toList.length := hlt
    have hget : bytes.get! start = bytes.data.toList[start] := by
      change bytes.data[start]! = _
      rw [getElem!_pos bytes.data start hlt, Array.getElem_toList]
    rw [ih, hget, List.reverse_cons, List.append_assoc, List.singleton_append,
      List.getElem_cons_drop]
  | case2 start done hlt =>
    have hlength : bytes.data.toList.length ≤ start := Nat.le_of_not_lt hlt
    rw [List.drop_eq_nil_of_le hlength, List.append_nil]

/-- **What a text is encoded in is decoded to the text.** -/
theorem decode_encode (text : String) : decode (encode text) = .ok text := by
  have hbytes : (⟨(encode text).toArray⟩ : ByteArray) = text.toByteArray := by
    refine ByteArray.ext ?_
    rw [encode, ByteArray.toList, toList_loop]
    rfl
  have hread : String.fromUTF8? text.toByteArray = some text := dif_pos text.isValidUTF8
  rw [decode, hbytes, hread]

/-- **A text without carriage returns is read back from its file.** -/
theorem textOf_encode {text : String} (h : '\r' ∉ text.toList) :
    textOf (encode text) = .ok text := by
  rw [textOf, decode_encode]
  simp only [bind, Except.bind, pure, Except.pure, Text.unifyLineEnds_of_notMem h,
    String.ofList_toList]

end Tree

end ClientGen
