import MorningstarModbus.Protocol.Codec

/-!
# MorningstarModbus.Protocol.Identification

The grammar of a Read Device Identification response, and its parser
(`parse_device_identification` of `protocol/codec.py`).

* `parseObjects_sound`, `parseObjects_encode` — the loop reads encodings of objects, and
  nothing else;
* `identification_exact` — the parser accepts exactly the grammar, gives the objects back,
  and fails with a protocol error otherwise.
-/

namespace MorningstarModbus

open Bytes

/-! ## the grammar -/

/-- A response with its conformity byte and its objects; the two bytes after the conformity
are any, and the count has to fit its byte. -/
structure IsIdentification (pdu : List UInt8) (conformity : UInt8)
    (objects : List (UInt8 × List UInt8)) : Prop where
  count_lt : objects.length < 256
  length_lt : ∀ o ∈ objects, o.2.length < 256
  layout : ∃ more next : UInt8, pdu =
    [0x2B, 0x0E, 0x01, conformity, more, next, UInt8.ofNat objects.length] ++ encodeObjects objects

/-- The text of an object's bytes. -/
def objectText (bs : List UInt8) : String := Text.strip (decodeAscii bs)

/-- The text of the last object with an id. -/
def lastText (objects : List (UInt8 × List UInt8)) (id : UInt8) : String :=
  (((objects.filter fun o => o.1 = id).getLast?).map fun o => objectText o.2).getD ""

/-- What the objects of a response identify. -/
def identificationOf (pdu : List UInt8) (conformity : UInt8)
    (objects : List (UInt8 × List UInt8)) : DeviceIdentification where
  vendorName := lastText objects 0
  productCode := lastText objects 1
  majorMinorRevision := lastText objects 2
  conformityLevel := conformity.toNat
  rawObjects := objects.map fun o => (o.1.toNat, objectText o.2)
  rawPduHex := hex pdu

/-! ## the loop over the objects -/

@[simp] theorem encodeObjects_cons (o : UInt8 × List UInt8) (objects : List (UInt8 × List UInt8)) :
    encodeObjects (o :: objects) =
      o.1 :: UInt8.ofNat o.2.length :: (o.2 ++ encodeObjects objects) := rfl

/-- The loop reads encodings of objects only. -/
theorem parseObjects_sound {n : Nat} {bs rest : List UInt8} {texts : List (Nat × String)}
    (h : parseObjects n bs = .ok (texts, rest)) :
    ∃ objects : List (UInt8 × List UInt8), objects.length = n ∧
      (∀ o ∈ objects, o.2.length < 256) ∧ bs = encodeObjects objects ++ rest ∧
        texts = objects.map fun o => (o.1.toNat, objectText o.2) := by
  induction n, bs using parseObjects.induct generalizing texts rest with
  | case1 bs =>
      simp only [parseObjects, Except.ok.injEq, Prod.mk.injEq] at h
      exact ⟨[], rfl, by simp, h.2, h.1.symm⟩
  | case2 n objectId length bs hshort =>
      rw [parseObjects, if_pos hshort] at h
      cases h
  | case3 n objectId length bs hlong ih =>
      rw [parseObjects, if_neg hlong] at h
      cases hrest : parseObjects n (bs.drop length.toNat) with
      | error e =>
          rw [hrest] at h
          cases h
      | ok result =>
          rw [hrest] at h
          obtain ⟨texts, rest⟩ := result
          obtain ⟨objects, hlen, hbytes, henc, htexts⟩ := ih hrest
          have hsize : (bs.take length.toNat).length = length.toNat :=
            List.length_take_of_le (not_lt.mp hlong)
          have hbyte : UInt8.ofNat (bs.take length.toNat).length = length := by
            rw [hsize, UInt8.ofNat_toNat]
          cases h
          refine ⟨(objectId, bs.take length.toNat) :: objects, by rw [List.length_cons, hlen],
            ?_, ?_, ?_⟩
          · intro o ho
            cases List.mem_cons.mp ho with
            | inl hfirst =>
                rw [hfirst, hsize]
                exact length.toNat_lt
            | inr hlater => exact hbytes o hlater
          · rw [encodeObjects_cons, hbyte, List.cons_append, List.cons_append, List.append_assoc,
              ← henc, List.take_append_drop]
          · rw [List.map_cons, ← htexts]
            rfl
  | case4 n bs hshape =>
      rw [parseObjects] at h
      · cases h
      · exact hshape

/-- Every error of the loop is a protocol error. -/
theorem parseObjects_error {n : Nat} {bs : List UInt8} {e : Failure}
    (h : parseObjects n bs = .error e) : ∃ message, e = .protocol message := by
  induction n, bs using parseObjects.induct with
  | case1 bs => cases h
  | case2 n objectId length bs hshort =>
      rw [parseObjects, if_pos hshort] at h
      cases h
      exact ⟨_, rfl⟩
  | case3 n objectId length bs hlong ih =>
      rw [parseObjects, if_neg hlong] at h
      cases hrest : parseObjects n (bs.drop length.toNat) with
      | error e' =>
          rw [hrest] at h
          cases h
          exact ih hrest
      | ok result =>
          rw [hrest] at h
          cases h
  | case4 n bs hshape =>
      rw [parseObjects] at h
      · cases h
        exact ⟨_, rfl⟩
      · exact hshape

/-- The value of a key is that of the last object with the id. -/
theorem objectValue_map (objects : List (UInt8 × List UInt8)) (id : UInt8) :
    objectValue (objects.map fun o => (o.1.toNat, objectText o.2)) id.toNat =
      lastText objects id := by
  rw [objectValue, lastText]
  congr 1
  induction objects using List.reverseRecOn with
  | nil => rfl
  | append_singleton objects o ih =>
      rw [List.map_append, List.reverse_append, List.filter_append]
      by_cases hid : o.1 = id
      · simp [hid]
      · have hne : id.toNat ≠ o.1.toNat := fun h => hid (UInt8.toNat_inj.mp h.symm)
        simp only [List.map_cons, List.map_nil, List.reverse_singleton, List.singleton_append,
          List.lookup_cons, beq_eq_false_iff_ne.mpr hne, ih]
        simp [hid]

/-! ## the parser -/

/-- A response of the grammar is accepted. -/
theorem IsIdentification.parse {pdu : List UInt8} {conformity : UInt8}
    {objects : List (UInt8 × List UInt8)} (h : IsIdentification pdu conformity objects) :
    parseDeviceIdentification pdu = .ok (identificationOf pdu conformity objects) := by
  obtain ⟨more, next, hpdu⟩ := h.layout
  have hcount : (UInt8.ofNat objects.length).toNat = objects.length := by
    rw [UInt8.toNat_ofNat', Nat.mod_eq_of_lt h.count_lt]
  have hparse : parseObjects (pdu.getD 6 0).toNat (pdu.drop 7) =
      .ok (objects.map fun o => (o.1.toNat, objectText o.2), []) := by
    have hread := parseObjects_encode h.length_lt []
    rw [List.append_nil] at hread
    rw [hpdu]
    show parseObjects (UInt8.ofNat objects.length).toNat (encodeObjects objects) = _
    rw [hcount, hread]
    rfl
  have hlen : ¬ pdu.length < 7 := by
    simp [hpdu]
  have hheader : pdu.take 3 = [0x2B, 0x0E, 0x01] := by
    rw [hpdu]
    rfl
  have hconformity : pdu.getD 3 0 = conformity := by
    rw [hpdu]
    rfl
  rw [parseDeviceIdentification, if_neg hlen, if_neg (not_not_intro hheader), hparse]
  show Except.ok _ = _
  rw [identificationOf, hconformity, ← objectValue_map objects 0, ← objectValue_map objects 1,
    ← objectValue_map objects 2]
  rfl

/-- What is accepted is a response of the grammar. -/
theorem parseDeviceIdentification_sound {pdu : List UInt8} {r : DeviceIdentification}
    (h : parseDeviceIdentification pdu = .ok r) :
    ∃ conformity objects, IsIdentification pdu conformity objects := by
  rw [parseDeviceIdentification] at h
  split_ifs at h with hlen hheader
  cases hparse : parseObjects (pdu.getD 6 0).toNat (pdu.drop 7) with
  | error e =>
      rw [hparse] at h
      cases h
  | ok result =>
      rw [hparse] at h
      obtain ⟨texts, rest⟩ := result
      obtain ⟨objects, hcount, hbytes, henc, htexts⟩ := parseObjects_sound hparse
      have hleft : rest = [] := by
        by_contra hne
        simp [bind, Except.bind, hne] at h
      rw [hleft, List.append_nil] at henc
      obtain ⟨more, next, hlayout⟩ : ∃ more next : UInt8, pdu =
          [0x2B, 0x0E, 0x01, pdu.getD 3 0, more, next, pdu.getD 6 0] ++ pdu.drop 7 := by
        match pdu, hlen, hheader with
        | a :: b :: c :: d :: e :: f :: g :: rest, _, hheader =>
            have hthree : [a, b, c] = [0x2B, 0x0E, 0x01] := not_not.mp hheader
            simp only [List.cons.injEq, and_true] at hthree
            rw [hthree.1, hthree.2.1, hthree.2.2]
            exact ⟨e, f, rfl⟩
        | [], hlen, _ | [_], hlen, _ | [_, _], hlen, _ | [_, _, _], hlen, _
        | [_, _, _, _], hlen, _ | [_, _, _, _, _], hlen, _ | [_, _, _, _, _, _], hlen, _ =>
            exact absurd hlen (by simp)
      refine ⟨pdu.getD 3 0, objects, ⟨?_, hbytes, more, next, ?_⟩⟩
      · rw [hcount]
        exact (pdu.getD 6 0).toNat_lt
      · rw [hcount, UInt8.ofNat_toNat, ← henc]
        exact hlayout

/-- Every error of the parser is a protocol error. -/
theorem parseDeviceIdentification_error {pdu : List UInt8} {e : Failure}
    (h : parseDeviceIdentification pdu = .error e) : ∃ message, e = .protocol message := by
  rw [parseDeviceIdentification] at h
  split_ifs at h with hlen hheader
  · cases h
    exact ⟨_, rfl⟩
  · cases h
    exact ⟨_, rfl⟩
  · cases hparse : parseObjects (pdu.getD 6 0).toNat (pdu.drop 7) with
    | error e' =>
        rw [hparse] at h
        cases h
        exact parseObjects_error hparse
    | ok result =>
        rw [hparse] at h
        by_cases hleft : result.2 = []
        · simp [bind, Except.bind, hleft, pure, Except.pure] at h
        · simp only [bind, Except.bind, if_pos hleft] at h
          cases h
          exact ⟨_, rfl⟩

/-! ## texts -/

/-- The objects of texts, in ASCII. -/
def asciiObjects (texts : List (UInt8 × String)) : List (UInt8 × List UInt8) :=
  texts.map fun t => (t.1, t.2.toList.map fun c => UInt8.ofNat c.toNat)

/-- The response with given texts. -/
def encodeIdentification (conformity more next : UInt8) (texts : List (UInt8 × String)) :
    List UInt8 :=
  [0x2B, 0x0E, 0x01, conformity, more, next, UInt8.ofNat texts.length] ++
    encodeObjects (asciiObjects texts)

theorem decodeAscii_ascii {text : String} (h : ∀ c ∈ text.toList, c.toNat < 128) :
    decodeAscii (text.toList.map fun c => UInt8.ofNat c.toNat) = text := by
  have hchars : (text.toList.map fun c => UInt8.ofNat c.toNat).map (fun b =>
      if b.toNat < 128 then Char.ofNat b.toNat else Char.ofNat 0xFFFD) = text.toList := by
    rw [List.map_map]
    refine (List.map_congr_left fun c hc => ?_).trans (List.map_id _)
    have hbyte : (UInt8.ofNat c.toNat).toNat = c.toNat := by
      rw [UInt8.toNat_ofNat']
      have := h c hc
      omega
    simp [hbyte, h c hc, Char.ofNat_toNat]
  rw [decodeAscii, hchars, String.ofList_toList]

/-- **Device identification**: the parser accepts exactly the grammar, with the texts of the
objects in their order and the last text of each id; it fails with a protocol error
otherwise; and trimmed ASCII texts are read back. -/
theorem identification_exact :
    (∀ (pdu : List UInt8) (r : DeviceIdentification), parseDeviceIdentification pdu = .ok r ↔
      ∃ conformity objects, IsIdentification pdu conformity objects ∧
        r = identificationOf pdu conformity objects) ∧
    (∀ (pdu : List UInt8) (e : Failure), parseDeviceIdentification pdu = .error e →
      ∃ message, e = .protocol message) ∧
    ∀ (conformity more next : UInt8) (texts : List (UInt8 × String)), texts.length ≤ 255 →
      (∀ t ∈ texts, t.2.length ≤ 255 ∧ Text.strip t.2 = t.2 ∧ ∀ c ∈ t.2.toList, c.toNat < 128) →
        ∃ r, parseDeviceIdentification (encodeIdentification conformity more next texts) = .ok r ∧
          r.rawObjects = texts.map fun t => (t.1.toNat, t.2) := by
  refine ⟨fun pdu r => ⟨fun h => ?_, fun h => ?_⟩, fun _ _ => parseDeviceIdentification_error,
    fun conformity more next texts hcount htexts => ?_⟩
  · obtain ⟨conformity, objects, hid⟩ := parseDeviceIdentification_sound h
    rw [hid.parse] at h
    exact ⟨conformity, objects, hid, (Except.ok.inj h).symm⟩
  · obtain ⟨conformity, objects, hid, hr⟩ := h
    rw [hid.parse, hr]
  · have hid : IsIdentification (encodeIdentification conformity more next texts) conformity
        (asciiObjects texts) := by
      refine ⟨by simp only [asciiObjects, List.length_map]; omega, ?_, more, next, ?_⟩
      · intro o ho
        obtain ⟨t, ht, rfl⟩ := List.mem_map.mp ho
        have := (htexts t ht).1
        simp only [List.length_map, String.length_toList]
        omega
      · simp [encodeIdentification, asciiObjects]
    refine ⟨_, hid.parse, ?_⟩
    show (asciiObjects texts).map (fun o => (o.1.toNat, objectText o.2)) = _
    rw [asciiObjects, List.map_map]
    refine List.map_congr_left fun t ht => ?_
    simp only [Function.comp, objectText, decodeAscii_ascii (htexts t ht).2.2, (htexts t ht).2.1]

/-- The texts of a response with a vendor and a product. -/
def productTexts : List (UInt8 × String) := [(0, "Morningstar"), (1, "TriStar MPPT")]

theorem productTexts_ascii : ∀ t ∈ productTexts, t.2.length ≤ 255 ∧ Text.strip t.2 = t.2 ∧
    ∀ c ∈ t.2.toList, c.toNat < 128 := by
  have hascii : productTexts.all (fun t => t.2.length ≤ 255 && Text.strip t.2 == t.2 &&
      t.2.toList.all fun c => c.toNat < 128) = true := by decide +kernel
  simpa [List.all_eq_true, and_assoc] using hascii

theorem identification_exact_product :
    ∃ r, parseDeviceIdentification (encodeIdentification 1 0 0 productTexts) = .ok r ∧
      r.rawObjects = [(0, "Morningstar"), (1, "TriStar MPPT")] :=
  identification_exact.2.2 1 0 0 productTexts (by decide) productTexts_ascii

end MorningstarModbus
