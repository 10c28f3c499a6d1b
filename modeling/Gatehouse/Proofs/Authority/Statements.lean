import Gatehouse.Ceremony
import Gatehouse.Proofs.Json.Gathering
import Gatehouse.Proofs.Text.Base64

namespace Gatehouse

open Json

namespace ClientData

def Names (name : String) (m : Octets × Octets) : Prop := Spells m.1 (Octets.ofText name)

/-- The octets are a JSON text that makes this statement. -/
inductive States (c : Octets) : ClientData → Prop
  | object {d : ClientData} {ms : List (Octets × Octets)} {o : Octets}
      (hc : Padded (123 :: (o ++ [125])) c) (ho : IsObject ms o)
      (hnames : ∀ m ∈ ms, ∃ name, Names name m)
      (hkind : Once (Names "type") (fun m ↦ IsText m.2 d.kind) ms)
      (hchallenge : Once (Names "challenge") (fun m ↦ IsText m.2 d.challenge) ms)
      (horigin : Once (Names "origin") (fun m ↦ IsText m.2 d.origin) ms)
      (hcross : Once (Names "crossOrigin") (fun m ↦ m.2 = boolWord d.crossOrigin) ms ∨
        (∀ m ∈ ms, ¬Names "crossOrigin" m) ∧ d.crossOrigin = false) : States c d
  | list {d : ClientData} {x y z o : Octets} {others : List Octets}
      (hc : Padded (91 :: (o ++ [93])) c) (ho : IsList (x :: y :: z :: others) o)
      (hkind : IsText x d.kind) (hchallenge : IsText y d.challenge) (horigin : IsText z d.origin)
      (hcross : others = [boolWord d.crossOrigin] ∨ others = [] ∧ d.crossOrigin = false) :
      States c d

end ClientData

namespace Wire

variable {d : ClientData} {form : Form} {members : Members} {items : Items} {n : Node}
  {ps : List (String × Node)}

abbrev statementFields := (((Fields.required "type" Decoder.text).and
  (.required "challenge" Decoder.text)).and (.required "origin" Decoder.text)).and
  (.withDefault "crossOrigin" Decoder.bool false)

theorem gives_statementFields {kind challenge origin : String} {crossOrigin : Bool} :
    statementFields.Gives ps (((kind, challenge), origin), crossOrigin) ↔
      ((Once (fun p ↦ p.1 = "type") (fun p ↦ p.2 = .text (.ok kind)) ps ∧
        Once (fun p ↦ p.1 = "challenge") (fun p ↦ p.2 = .text (.ok challenge)) ps) ∧
        Once (fun p ↦ p.1 = "origin") (fun p ↦ p.2 = .text (.ok origin)) ps) ∧
        (Once (fun p ↦ p.1 = "crossOrigin") (fun p ↦ p.2 = .bool crossOrigin) ps ∨
          (∀ p ∈ ps, p.1 ≠ "crossOrigin") ∧ crossOrigin = false) := by
  unfold statementFields Fields.required Fields.withDefault
  rw [Fields.gives_field (by decide), Fields.gives_field (by decide),
    Fields.gives_field (by decide), Fields.gives_single]
  simp only [Decoder.text_eq_ok, Decoder.bool_eq_ok, reduceCtorEq, and_false, or_false,
    Except.ok.injEq, @eq_comm _ false]

theorem readClientData_object : readClientData (.object form members) = .ok d ↔
    ∃ ps, members = .named ps ∧ statementFields.Gives ps
        (((d.kind, d.challenge), d.origin), d.crossOrigin) ∧
      ∀ p ∈ ps, statementFields.number? p.1 = none → p.2.skip = .ok () := by
  rw [readClientData, Fields.record_object]
  constructor
  · rintro ⟨ps, rfl, hgives, hskip⟩
    obtain ⟨⟨⟨⟨kind, challenge⟩, origin⟩, crossOrigin⟩, hfields, rfl⟩ := Fields.gives_map.1 hgives
    exact ⟨ps, rfl, hfields, hskip⟩
  · rintro ⟨ps, rfl, hgives, hskip⟩
    exact ⟨ps, rfl, Fields.gives_map.2 ⟨_, hgives, rfl⟩, hskip⟩

theorem givesInOrder_statementFields {ns : List Node} {kind challenge origin : String}
    {crossOrigin : Bool} :
    statementFields.GivesInOrder ns (((kind, challenge), origin), crossOrigin) ∧
        true ∉ (statementFields.names.map Prod.snd).drop ns.length ↔
      ∃ others, ns = .text (.ok kind) :: .text (.ok challenge) :: .text (.ok origin) :: others ∧
        (others = [.bool crossOrigin] ∨ others = [] ∧ crossOrigin = false) := by
  have hneeded : statementFields.names.map Prod.snd = [true, true, true, false] := rfl
  rw [hneeded, Fields.givesInOrder_and, Fields.givesInOrder_and, Fields.givesInOrder_and]
  unfold Fields.required Fields.withDefault
  simp only [Fields.givesInOrder_single, Decoder.text_eq_ok, Decoder.bool_eq_ok, reduceCtorEq,
    and_false, or_false]
  rcases ns with _ | ⟨x, _ | ⟨y, _ | ⟨z, others⟩⟩⟩
  · simp
  · simp
  · simp
  · have hlast : true ∉ [true, true, true, false].drop (x :: y :: z :: others).length := by
      intro h
      exact absurd (List.mem_of_mem_drop (l := [false]) (i := others.length) h) (by decide)
    simp only [hlast, not_false_eq_true, and_true]
    simp [Fields.and, Fields.single, and_assoc]

theorem readClientData_list : readClientData (.list form items) = .ok d ↔
    ∃ others, items = .of (.text (.ok d.kind) :: .text (.ok d.challenge) :: .text (.ok d.origin) ::
        others) ∧ (others = [.bool d.crossOrigin] ∨ others = [] ∧ d.crossOrigin = false) := by
  rw [readClientData, Fields.record_list]
  constructor
  · rintro ⟨ns, rfl, hns, hlast⟩
    obtain ⟨⟨⟨⟨kind, challenge⟩, origin⟩, crossOrigin⟩, hfields, rfl⟩ :=
      Fields.givesInOrder_map.1 hns
    obtain ⟨others, rfl, hothers⟩ := givesInOrder_statementFields.1 ⟨hfields, hlast⟩
    exact ⟨others, rfl, hothers⟩
  · rintro ⟨others, rfl, hothers⟩
    obtain ⟨hns, hlast⟩ := givesInOrder_statementFields.2 ⟨others, rfl, hothers⟩
    exact ⟨_, rfl, Fields.givesInOrder_map.2 ⟨_, hns, rfl⟩, hlast⟩

end Wire

namespace ClientData

variable {c : Octets} {d : ClientData} {ms : List (Octets × Octets)}
  {es : List (Except Fault String × Node)} {ps : List (String × Node)} {name : String}

theorem exists_named (h : List.Forall₂ ShowsMember ms es)
    (hnames : ∀ m ∈ ms, ∃ name, Names name m) : ∃ ps, Members.of es = .named ps := by
  induction h with
  | nil => exact ⟨[], rfl⟩
  | @cons m e ms es hm _ ih =>
    obtain ⟨name, hname⟩ := hnames m List.mem_cons_self
    obtain ⟨ps, hps⟩ := ih fun m' hm' ↦ hnames m' (List.mem_cons_of_mem m hm')
    obtain ⟨key, n⟩ := e
    obtain rfl : key = .ok name := (hm.1 name).2 hname
    exact ⟨(name, n) :: ps, congrArg (Members.more (.ok name) n) hps⟩

/-- What an object states is what its members give. -/
theorem states_iff_gives
    (h : List.Forall₂ (fun m p ↦ ShowsMember m (.ok p.1, p.2)) ms ps) :
    Wire.statementFields.Gives ps (((d.kind, d.challenge), d.origin), d.crossOrigin) ↔
      ((Once (Names "type") (fun m ↦ IsText m.2 d.kind) ms ∧
        Once (Names "challenge") (fun m ↦ IsText m.2 d.challenge) ms) ∧
        Once (Names "origin") (fun m ↦ IsText m.2 d.origin) ms) ∧
        (Once (Names "crossOrigin") (fun m ↦ m.2 = boolWord d.crossOrigin) ms ∨
          (∀ m ∈ ms, ¬Names "crossOrigin" m) ∧ d.crossOrigin = false) := by
  have names (name : String) (m : Octets × Octets) (p : String × Node)
      (hm : ShowsMember m (.ok p.1, p.2)) : Names name m ↔ p.1 = name := by
    rw [Names, ← hm.1 name, Except.ok.injEq]
  have text (s : String) (m : Octets × Octets) (p : String × Node)
      (hm : ShowsMember m (.ok p.1, p.2)) : IsText m.2 s ↔ p.2 = .text (.ok s) :=
    (hm.2.text s).symm
  have bool (b : Bool) (m : Octets × Octets) (p : String × Node)
      (hm : ShowsMember m (.ok p.1, p.2)) : m.2 = boolWord b ↔ p.2 = .bool b :=
    (hm.2.bool b).symm
  rw [Wire.gives_statementFields, once_congr h (names _) (text _), once_congr h (names _) (text _),
    once_congr h (names _) (text _), once_congr h (names _) (bool _),
    forall_not_congr h (names _)]

/-- A record that is read has been read to its end. -/
theorem skip_of_readClientData {n : Node} (h : Wire.readClientData n = .ok d) :
    n.skip = .ok () := by
  rcases Fields.exists_of_record h with ⟨form, members, rfl⟩ | ⟨form, items, rfl⟩
  · obtain ⟨ps, rfl, hgives, hskip⟩ := Wire.readClientData_object.1 h
    obtain ⟨⟨⟨htype, hchallenge⟩, horigin⟩, hcross⟩ := Wire.gives_statementFields.1 hgives
    refine Members.skip_of fun e he ↦ ?_
    obtain ⟨p, hp, rfl⟩ := List.mem_map.1 he
    by_cases hname : p.1 ∈ ["type", "challenge", "origin", "crossOrigin"]
    · -- a field that was read is a text or a truth value
      simp only [List.mem_cons, List.not_mem_nil, or_false] at hname
      rcases hname with hname | hname | hname | hname
      · simp only [htype.of_mem hp hname, Node.skip]
      · simp only [hchallenge.of_mem hp hname, Node.skip]
      · simp only [horigin.of_mem hp hname, Node.skip]
      · rcases hcross with hcross | ⟨hnone, -⟩
        · simp only [hcross.of_mem hp hname, Node.skip]
        · exact absurd hname (hnone p hp)
    · exact hskip p hp (Fields.number?_eq_none_iff.2 hname)
  · obtain ⟨others, rfl, hothers⟩ := Wire.readClientData_list.1 h
    refine Items.skip_of ?_
    rcases hothers with rfl | ⟨rfl, -⟩ <;> simp [Node.skip]

theorem run_eq_ok_iff : Wire.readClientData.run c = .ok d ↔ States c d := by
  rw [Decoder.run_eq_ok]
  constructor
  · rintro ⟨hread, htrailing⟩
    obtain ⟨v, hc, -, htells⟩ :=
      Document.exists_of_read (skip_of_readClientData hread) htrailing
    rcases Fields.exists_of_record hread with ⟨form, members, hroot⟩ | ⟨form, items, hroot⟩
    · obtain ⟨ms, o, es, rfl, ho, rfl, hshows⟩ := htells.object form members hroot
      rw [hroot] at hread
      obtain ⟨ps, hes, hgives, -⟩ := Wire.readClientData_object.1 hread
      obtain rfl := Members.of_injective hes
      rw [List.forall₂_map_right_iff] at hshows
      obtain ⟨⟨⟨htype, hchallenge⟩, horigin⟩, hcross⟩ := (states_iff_gives hshows).1 hgives
      refine .object hc ho (fun m hm ↦ ?_) htype hchallenge horigin hcross
      obtain ⟨p, -, hp⟩ := exists_of_forall₂ (List.Forall₂.flip hshows) hm
      exact ⟨p.1, (hp.1 p.1).1 rfl⟩
    · obtain ⟨vs, o, ns, rfl, ho, rfl, hshows⟩ := htells.list form items hroot
      rw [hroot] at hread
      obtain ⟨others, hns, hothers⟩ := Wire.readClientData_list.1 hread
      obtain rfl := Items.of_injective hns
      obtain _ | ⟨hx, _ | ⟨hy, _ | ⟨hz, hrest⟩⟩⟩ := hshows
      refine .list hc ho ((hx.text _).1 rfl) ((hy.text _).1 rfl) ((hz.text _).1 rfl) ?_
      rcases hothers with rfl | ⟨rfl, hcross⟩
      · obtain _ | ⟨hw, ⟨⟩⟩ := hrest
        exact .inl (congrArg (fun w ↦ [w]) ((hw.bool _).1 rfl))
      · cases hrest
        exact .inr ⟨rfl, hcross⟩
  · rintro (⟨hc, ho, hnames, htype, hchallenge, horigin, hcross⟩ |
      ⟨hc, ho, htype, hchallenge, horigin, hcross⟩)
    · obtain ⟨es, hread, hshows⟩ := Document.read_object hc ho
      obtain ⟨ps, hps⟩ := exists_named hshows hnames
      obtain rfl := Members.of_injective hps
      rw [List.forall₂_map_right_iff] at hshows
      rw [hread]
      refine ⟨Wire.readClientData_object.2 ⟨ps, rfl, ?_, ?_⟩, rfl⟩
      · exact (states_iff_gives hshows).2 ⟨⟨⟨htype, hchallenge⟩, horigin⟩, hcross⟩
      · intro p hp _
        obtain ⟨m, -, hm⟩ := exists_of_forall₂ hshows hp
        exact hm.2.skip
    · obtain ⟨ns, hread, hshows⟩ := Document.read_list hc ho
      rw [hread]
      obtain _ | ⟨hx, _ | ⟨hy, _ | ⟨hz, hrest⟩⟩⟩ := hshows
      obtain rfl := (hx.text _).2 htype
      obtain rfl := (hy.text _).2 hchallenge
      obtain rfl := (hz.text _).2 horigin
      refine ⟨Wire.readClientData_list.2 ⟨_, rfl, ?_⟩, rfl⟩
      rcases hcross with rfl | ⟨rfl, hcross⟩
      · obtain _ | ⟨hw, ⟨⟩⟩ := hrest
        exact .inl (congrArg (fun w ↦ [w]) ((hw.bool _).2 rfl))
      · cases hrest
        exact .inr ⟨rfl, hcross⟩

section Validation

variable {kind origin : String} {id : SessionId}

theorem validate_of_states (h : States c d) :
    validate c kind id origin = d.check kind id origin >>= fun _ ↦ .ok d := by
  rw [validate, run_eq_ok_iff.2 h]
  rfl

theorem exists_of_not_states (h : ∀ d, ¬States c d) :
    ∃ reason, validate c kind id origin = .error (.clientData reason) := by
  cases hrun : Wire.readClientData.run c with
  | ok d => exact absurd (run_eq_ok_iff.1 hrun) (h d)
  | error f => exact ⟨f.fault.message, by rw [validate, hrun]; rfl⟩

theorem check_eq_ok_iff : d.check kind id origin = .ok () ↔
    d.kind = kind ∧ d.challenge = id.text ∧ d.origin = origin ∧ d.crossOrigin = false := by
  unfold check
  split_ifs with hkind hchallenge horigin hcross <;> simp_all

theorem check_ne_clientData {reason : String} :
    d.check kind id origin ≠ .error (.clientData reason) := by
  unfold check
  split_ifs <;> simp

theorem validate_eq_ok_iff : validate c kind id origin = .ok d ↔ States c d ∧ d.kind = kind ∧
    d.challenge = id.text ∧ d.origin = origin ∧ d.crossOrigin = false := by
  rw [← check_eq_ok_iff]
  constructor
  · intro h
    by_cases hstates : ∃ d', States c d'
    · obtain ⟨d', hd'⟩ := hstates
      rw [validate_of_states hd'] at h
      obtain ⟨⟨⟩, hcheck, hd⟩ := exists_of_bind h
      cases hd
      exact ⟨hd', hcheck⟩
    · obtain ⟨reason, hreason⟩ := exists_of_not_states (not_exists.1 hstates)
      rw [hreason] at h
      cases h
  · rintro ⟨hd, hcheck⟩
    rw [validate_of_states hd, hcheck]
    rfl

theorem validate_unread_iff :
    (∃ reason, validate c kind id origin = .error (.clientData reason)) ↔ ∀ d, ¬States c d := by
  constructor
  · rintro ⟨reason, h⟩ d hd
    rw [validate_of_states hd] at h
    cases hcheck : d.check kind id origin with
    | ok _ =>
      rw [hcheck] at h
      cases h
    | error e =>
      rw [hcheck] at h
      cases h
      exact check_ne_clientData hcheck
  · exact exists_of_not_states

end Validation

/-- A browser's statement is good for one kind of ceremony, in one session, at one site. It is
taken if and only if it is JSON of the right shape and says just that; otherwise the first thing
that is wrong is the complaint. -/
theorem bound_to_ceremony (c : Octets) (kind : String) (id : SessionId) (origin : String) :
    (∀ kind' id' origin' d d', validate c kind id origin = .ok d →
      validate c kind' id' origin' = .ok d' → kind = kind' ∧ id = id' ∧ origin = origin') ∧
    (∀ d, validate c kind id origin = .ok d ↔ States c d ∧ d.kind = kind ∧
      d.challenge = Base64.encode .urlSafe id.octets ∧ d.origin = origin ∧
      d.crossOrigin = false) ∧
    ((∃ reason, validate c kind id origin = .error (.clientData reason)) ↔ ∀ d, ¬States c d) ∧
    ∀ d, States c d →
      (d.kind ≠ kind → validate c kind id origin = .error (.wrongKind kind d.kind)) ∧
      (d.kind = kind → d.challenge ≠ Base64.encode .urlSafe id.octets →
        validate c kind id origin = .error .challengeMismatch) ∧
      (d.kind = kind → d.challenge = Base64.encode .urlSafe id.octets → d.origin ≠ origin →
        validate c kind id origin = .error (.originMismatch origin d.origin)) ∧
      (d.kind = kind → d.challenge = Base64.encode .urlSafe id.octets → d.origin = origin →
        d.crossOrigin = true → validate c kind id origin = .error .crossOrigin) := by
  refine ⟨?_, fun d ↦ validate_eq_ok_iff, validate_unread_iff, fun d hd ↦ ?_⟩
  · intro kind' id' origin' d d' h h'
    -- the octets are read in one way only, so both ceremonies are compared with one statement
    have hd : d = d' := by
      have hrun := run_eq_ok_iff.2 (validate_eq_ok_iff.1 h).1
      have hrun' := run_eq_ok_iff.2 (validate_eq_ok_iff.1 h').1
      exact Except.ok.inj (hrun.symm.trans hrun')
    subst hd
    obtain ⟨-, hkind, hchallenge, horigin, -⟩ := validate_eq_ok_iff.1 h
    obtain ⟨-, hkind', hchallenge', horigin', -⟩ := validate_eq_ok_iff.1 h'
    obtain ⟨o⟩ := id
    obtain ⟨o'⟩ := id'
    have ho : o = o' := Base64.encode_injective .urlSafe (hchallenge.symm.trans hchallenge')
    exact ⟨hkind.symm.trans hkind', congrArg SessionId.mk ho, horigin.symm.trans horigin'⟩
  · rw [validate_of_states hd, check, SessionId.text]
    refine ⟨fun hkind ↦ ?_, fun hkind hchallenge ↦ ?_, fun hkind hchallenge horigin ↦ ?_,
      fun hkind hchallenge horigin hcross ↦ ?_⟩
    · rw [if_pos hkind]
      rfl
    · rw [if_neg (not_not.2 hkind), if_pos hchallenge]
      rfl
    · rw [if_neg (not_not.2 hkind), if_neg (not_not.2 hchallenge), if_pos horigin]
      rfl
    · rw [if_neg (not_not.2 hkind), if_neg (not_not.2 hchallenge), if_neg (not_not.2 horigin),
        if_pos hcross]
      rfl

theorem bound_to_ceremony_shuffled :
    let c := Octets.ofText ("\x7b\"more\": [1e3, null], \"origin\": \"https://id.example\"," ++
      "\"\\u0074ype\": \"webauthn.get\", \"challenge\": \"AQID\"\x7d")
    States c ⟨"webauthn.get", "AQID", "https://id.example", false⟩ ∧
      (∀ kind id origin d, validate c kind id origin = .ok d →
        "webauthn.get" = kind ∧ ⟨[1, 2, 3]⟩ = id ∧ "https://id.example" = origin) ∧
      validate c "webauthn.create" ⟨[1, 2, 3]⟩ "https://id.example" =
        .error (.wrongKind "webauthn.create" "webauthn.get") := by
  intro c
  have h : validate c "webauthn.get" ⟨[1, 2, 3]⟩ "https://id.example" =
      .ok ⟨"webauthn.get", "AQID", "https://id.example", false⟩ := by decide +kernel
  have hs := ((bound_to_ceremony c _ _ _).2.1 _).1 h
  exact ⟨hs.1, fun kind id origin d hd ↦ (bound_to_ceremony c _ _ _).1 kind id origin _ d h hd,
    ((bound_to_ceremony c "webauthn.create" ⟨[1, 2, 3]⟩ _).2.2.2 _ hs.1).1 (by decide)⟩

end ClientData

end Gatehouse
