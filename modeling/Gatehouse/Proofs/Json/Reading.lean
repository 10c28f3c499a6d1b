import Gatehouse.Json.Decode
import Gatehouse.Proofs.Json.Texts

namespace Gatehouse.Json

open Octets (ofChars ofChars_nil ofChars_cons ofChars_append encode_of_ascii)

mutual

def Value.isNumberless : Value → Bool
  | .number _ => false
  | .list vs => numberlessList vs
  | .object ms => numberlessMembers ms
  | _ => true

def numberlessList : List Value → Bool
  | [] => true
  | v :: vs => v.isNumberless && numberlessList vs

def numberlessMembers : List (String × Value) → Bool
  | [] => true
  | (_, v) :: ms => v.isNumberless && numberlessMembers ms

end

variable {b : UInt8} {fuel n : Nat} {o : Octets} {v w : Value}

def opensValue (b : UInt8) : Bool := [110, 116, 102, 34, 91, 123].contains b

theorem isSpace_of_opensValue (h : opensValue b) : isSpace b = false := by
  simp only [opensValue, List.contains_eq_mem, List.mem_cons, List.not_mem_nil, or_false,
    decide_eq_true_eq] at h
  rcases h with rfl | rfl | rfl | rfl | rfl | rfl <;> rfl

theorem ne_of_opensValue (h : opensValue b) : b ≠ 93 ∧ b ≠ 125 := by
  simp only [opensValue, List.contains_eq_mem, List.mem_cons, List.not_mem_nil, or_false,
    decide_eq_true_eq] at h
  rcases h with rfl | rfl | rfl | rfl | rfl | rfl <;> decide

theorem dropSpace_cons (h : isSpace b = false) : dropSpace (b :: o) = b :: o := by
  rw [dropSpace, List.dropWhile_cons_of_neg (by simp [h])]

def Value.octets (v : Value) : Octets := ofChars v.render

def listOctets (vs : List Value) : Octets := ofChars (renderList vs ++ [']'])

def memberOctets (ms : List (String × Value)) : Octets := ofChars (renderMembers ms ++ ['\x7d'])

@[simp] theorem octets_list (vs : List Value) : (Value.list vs).octets = 91 :: listOctets vs := rfl

@[simp] theorem octets_object (ms : List (String × Value)) :
    (Value.object ms).octets = 123 :: memberOctets ms := rfl

@[simp] theorem octets_text (s : String) : (Value.text s).octets = 34 :: closing s :=
  ofChars_quote s

@[simp] theorem listOctets_single (v : Value) : listOctets [v] = v.octets ++ [93] := by
  rw [listOctets, renderList, ofChars_append]
  rfl

@[simp] theorem listOctets_cons (v w : Value) (vs : List Value) :
    listOctets (v :: w :: vs) = v.octets ++ 44 :: listOctets (w :: vs) := by
  rw [listOctets, renderList, List.append_assoc, ofChars_append]
  rfl

@[simp] theorem memberOctets_single (k : String) (v : Value) :
    memberOctets [(k, v)] = 34 :: closing k ++ 58 :: (v.octets ++ [125]) := by
  rw [memberOctets, renderMembers, List.append_assoc, List.cons_append, ofChars_append,
    ofChars_quote, ofChars_cons, ofChars_append]
  rfl

@[simp] theorem memberOctets_cons (k : String) (v : Value) (m : String × Value)
    (ms : List (String × Value)) : memberOctets ((k, v) :: m :: ms) =
      34 :: closing k ++ 58 :: (v.octets ++ 44 :: memberOctets (m :: ms)) := by
  rw [memberOctets, renderMembers, List.append_assoc, List.append_assoc, ofChars_append,
    ofChars_quote, List.cons_append, List.cons_append, ofChars_cons, ofChars_append]
  rfl

theorem octets_opens (h : v.isNumberless) :
    ∃ b o, v.octets = b :: o ∧ opensValue b := by
  cases v with
  | null => exact ⟨110, [117, 108, 108], rfl, rfl⟩
  | bool b =>
    cases b
    · exact ⟨102, [97, 108, 115, 101], rfl, rfl⟩
    · exact ⟨116, [114, 117, 101], rfl, rfl⟩
  | number n => simp [Value.isNumberless] at h
  | text s => exact ⟨34, _, octets_text s, rfl⟩
  | list vs => exact ⟨91, _, rfl, rfl⟩
  | object ms => exact ⟨123, _, rfl, rfl⟩

theorem listOctets_opens {vs : List Value} (h : numberlessList (v :: vs)) :
    ∃ b o, listOctets (v :: vs) = b :: o ∧ opensValue b := by
  rw [numberlessList, Bool.and_eq_true] at h
  obtain ⟨b, o, hv, hb⟩ := octets_opens h.1
  cases vs with
  | nil => exact ⟨b, o ++ [93], by rw [listOctets_single, hv]; rfl, hb⟩
  | cons w vs => exact ⟨b, o ++ 44 :: listOctets (w :: vs), by rw [listOctets_cons, hv]; rfl, hb⟩

theorem memberOctets_eq (m : String × Value) (ms : List (String × Value)) :
    ∃ p, memberOctets (m :: ms) = 34 :: p := by
  cases ms with
  | nil => exact ⟨_, memberOctets_single m.1 m.2⟩
  | cons n ms => exact ⟨_, memberOctets_cons m.1 m.2 n ms⟩

mutual

theorem readNode_octets : (v : Value) → (fuel : Nat) → (o : Octets) → v.isNumberless →
    2 * v.octets.length ≤ fuel →
      readNode fuel (v.octets ++ o) = (Node.ofValue .text v, some o)
  | v, 0, o, h, hf => by
    obtain ⟨b, p, hv, -⟩ := octets_opens h
    rw [hv] at hf
    simp at hf
  | .null, fuel + 1, o, _, _ => by
    change readNode (fuel + 1) (110 :: 117 :: 108 :: 108 :: o) = _
    simp [readNode, dropSpace_cons, isSpace, readScalar, readWord, Node.ofValue]
  | .bool true, fuel + 1, o, _, _ => by
    change readNode (fuel + 1) (116 :: 114 :: 117 :: 101 :: o) = _
    simp [readNode, dropSpace_cons, isSpace, readScalar, readWord, Node.ofValue]
  | .bool false, fuel + 1, o, _, _ => by
    change readNode (fuel + 1) (102 :: 97 :: 108 :: 115 :: 101 :: o) = _
    simp [readNode, dropSpace_cons, isSpace, readScalar, readWord, Node.ofValue]
  | .text s, fuel + 1, o, _, _ => by
    rw [octets_text, List.cons_append, readNode, dropSpace_cons rfl]
    simp [readScalar, scanText_closing, Node.ofValue]
  | .list [], fuel + 1, o, _, _ => rfl
  | .list (v :: vs), fuel + 1, o, h, hf => by
    rw [Value.isNumberless] at h
    obtain ⟨b, p, hp, hb⟩ := listOctets_opens h
    have hread := readItems_octets v vs fuel o h (by
      rw [octets_list, List.length_cons] at hf
      omega)
    rw [hp, List.cons_append] at hread
    rw [octets_list, List.cons_append, readNode, dropSpace_cons rfl, hp, List.cons_append]
    simp [dropSpace_cons (isSpace_of_opensValue hb), (ne_of_opensValue hb).1, hread, Node.ofValue]
  | .object [], fuel + 1, o, _, _ => rfl
  | .object (m :: ms), fuel + 1, o, h, hf => by
    rw [Value.isNumberless] at h
    obtain ⟨p, hp⟩ := memberOctets_eq m ms
    rw [octets_object, hp, List.length_cons, List.length_cons] at hf
    have hread := readMembers_octets m ms fuel p o h hp (by omega)
    rw [octets_object, List.cons_append, readNode, dropSpace_cons rfl, hp, List.cons_append]
    simp [dropSpace_cons (b := 34) rfl, hread, Node.ofValue]

theorem readItems_octets : (v : Value) → (vs : List Value) → (fuel : Nat) → (o : Octets) →
    numberlessList (v :: vs) → 2 * (listOctets (v :: vs)).length ≤ fuel →
      readItems fuel (listOctets (v :: vs) ++ o) = (Items.ofValues .text (v :: vs), some o)
  | v, [], 0, o, _, hf => by simp at hf
  | v, w :: vs, 0, o, _, hf => by simp at hf
  | v, [], fuel + 1, o, h, hf => by
    rw [numberlessList, Bool.and_eq_true] at h
    rw [listOctets_single, List.length_append, List.length_singleton] at hf
    have hread := readNode_octets v fuel (93 :: o) h.1 (by omega)
    rw [listOctets_single, List.append_assoc, List.singleton_append, readItems, hread]
    simp [dropSpace_cons (b := 93) rfl, Items.ofValues]
  | v, w :: vs, fuel + 1, o, h, hf => by
    rw [numberlessList, Bool.and_eq_true] at h
    rw [listOctets_cons, List.length_append, List.length_cons] at hf
    obtain ⟨b, p, hp, hb⟩ := listOctets_opens h.2
    have hread := readNode_octets v fuel (44 :: (listOctets (w :: vs) ++ o)) h.1 (by omega)
    have hrest := readItems_octets w vs fuel o h.2 (by omega)
    rw [listOctets_cons, List.append_assoc, List.cons_append, readItems, hread]
    rw [hp, List.cons_append] at hrest ⊢
    simp [dropSpace_cons (b := 44) rfl, dropSpace_cons (isSpace_of_opensValue hb),
      (ne_of_opensValue hb).1, hrest, Items.ofValues]

theorem readMembers_octets : (m : String × Value) → (ms : List (String × Value)) →
    (fuel : Nat) → (p o : Octets) → numberlessMembers (m :: ms) → memberOctets (m :: ms) = 34 :: p →
      2 * p.length ≤ fuel →
      readMembers fuel (p ++ o) = (Members.ofValues .text (m :: ms), some o)
  | (k, v), [], 0, p, o, _, hp, hf => by
    rw [memberOctets_single, List.cons_append, List.cons.injEq] at hp
    rw [← hp.2] at hf
    simp at hf
  | (k, v), n :: ms, 0, p, o, _, hp, hf => by
    rw [memberOctets_cons, List.cons_append, List.cons.injEq] at hp
    rw [← hp.2] at hf
    simp at hf
  | (k, v), [], fuel + 1, p, o, h, hp, hf => by
    rw [numberlessMembers, Bool.and_eq_true] at h
    rw [memberOctets_single, List.cons_append, List.cons.injEq] at hp
    rw [← hp.2] at hf ⊢
    simp only [List.length_append, List.length_cons] at hf
    have hread := readNode_octets v fuel (125 :: o) h.1 (by omega)
    rw [List.append_assoc, List.cons_append, List.append_assoc, List.singleton_append,
      readMembers, scanText_closing]
    simp [dropSpace_cons (b := 58) rfl, dropSpace_cons (b := 125) rfl, hread, Members.ofValues]
  | (k, v), n :: ms, fuel + 1, p, o, h, hp, hf => by
    rw [numberlessMembers, Bool.and_eq_true] at h
    rw [memberOctets_cons, List.cons_append, List.cons.injEq] at hp
    obtain ⟨q, hq⟩ := memberOctets_eq n ms
    rw [← hp.2] at hf ⊢
    simp only [List.length_append, List.length_cons, hq] at hf
    have hread := readNode_octets v fuel (44 :: 34 :: (q ++ o)) h.1 (by omega)
    have hrest := readMembers_octets n ms fuel q o h.2 hq (by omega)
    rw [hq, List.append_assoc, List.cons_append, List.append_assoc, List.cons_append,
      List.cons_append, readMembers, scanText_closing]
    simp [dropSpace_cons (b := 58) rfl, dropSpace_cons (b := 44) rfl, dropSpace_cons (b := 34) rfl,
      hread, hrest, Members.ofValues]

end

/-- A value without numbers is read as itself, and nothing is left over. -/
theorem read_octets (h : v.isNumberless) :
    Document.read v.octets = ⟨Node.ofValue .text v, false⟩ := by
  have hread := readNode_octets v (2 * v.octets.length + 2) [] h (Nat.le_add_right _ _)
  rw [List.append_nil] at hread
  rw [Document.read, hread]
  rfl

theorem run_compact {α : Type} (d : Decoder α) (h : v.isNumberless) :
    d.run (Octets.ofText v.compact) = d (Node.ofValue .text v) := by
  have ho : Octets.ofText v.compact = v.octets := Octets.ofText_ofList v.render
  rw [Decoder.run, ho, read_octets h]
  cases d (Node.ofValue .text v) <;> rfl

end Gatehouse.Json
