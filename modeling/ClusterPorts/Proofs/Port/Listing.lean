import ClusterPorts.Demo.Validation
import ClusterPorts.Proofs.Port.Spelling

/-!
# Lists of ports, written and read

A list of ports is printed with a comma and a space between two ports, and read piece by
piece between the commas. The space is white space before the next port, which its reader
overlooks: what is printed of a list is read as the same list.
-/

namespace ClusterPorts

open Text

namespace Port

variable {port : Port} {ports : List Port} {s : String}

/-! ## Reading a list -/

theorem parse_ofList_eq_ok {cs : List Char} :
    parse (String.ofList cs) = .ok port ↔ port.IsWritten cs := by
  rw [parse_eq_ok, String.toList_ofList]

theorem mapM_parse_eq_ok {texts : List (List Char)} :
    (texts.mapM fun piece => parse (String.ofList piece)) = .ok ports ↔
      List.Forall₂ IsWritten ports texts := by
  induction texts generalizing ports with
  | nil =>
      rw [List.mapM_nil, List.forall₂_nil_right_iff]
      exact ⟨fun same => (Except.ok.inj same).symm, fun same => same ▸ rfl⟩
  | cons piece rest ih =>
      rw [List.mapM_cons, List.forall₂_cons_right_iff]
      constructor
      · intro read
        cases first : parse (String.ofList piece) with
        | error fault => rw [first] at read; cases read
        | ok port =>
            cases others : rest.mapM fun piece => parse (String.ofList piece) with
            | error fault => rw [first, others] at read; cases read
            | ok ports' =>
                rw [first, others] at read
                cases read
                exact ⟨port, ports', parse_ofList_eq_ok.mp first, ih.mp others, rfl⟩
      · rintro ⟨port, ports', first, others, rfl⟩
        rw [parse_ofList_eq_ok.mpr first, ih.mpr others]
        rfl

/-- A list of ports is read of a text whose pieces between the commas are spellings of the
ports, one after the other. -/
theorem parseList_eq_ok :
    parseList s = .ok ports ↔ List.Forall₂ IsWritten ports (pieces ',' s.toList) :=
  mapM_parse_eq_ok

/-! ## Printing a list -/

theorem comma_notMem_text : ',' ∉ port.text.toList := by
  rw [text_toList, List.mem_append, List.mem_cons]
  rintro (digit | same | letter)
  · exact absurd (Nat.isDigit_of_mem_toDigits (by decide) (by decide) digit) (by decide)
  · exact absurd same (by decide)
  · exact absurd (Protocol.isLower_of_mem_name _ letter) (by decide)

theorem listText_cons_cons (other : Port) (rest : List Port) :
    (listText (port :: other :: rest)).toList =
      port.text.toList ++ ',' :: ' ' :: (listText (other :: rest)).toList := by
  simp [listText, String.intercalate_cons_cons]

theorem pieces_listText (rest : List Port) :
    pieces ',' (listText (port :: rest)).toList =
      port.text.toList :: rest.map fun other => ' ' :: other.text.toList := by
  induction rest generalizing port with
  | nil =>
      have single : listText [port] = port.text := by simp [listText]
      rw [single, pieces_of_notMem comma_notMem_text, List.map_nil]
  | cons other rest ih =>
      rw [listText_cons_cons, pieces_append_cons comma_notMem_text, pieces, if_neg (by decide), ih,
        List.map_cons]

/-- What is printed of a list of ports is read as this list. -/
theorem forall₂_isWritten_listText (filled : ports ≠ [])
    (positive : ∀ port ∈ ports, port.number ≠ 0) :
    List.Forall₂ IsWritten ports (pieces ',' (listText ports).toList) := by
  obtain ⟨port, rest, rfl⟩ := List.exists_cons_of_ne_nil filled
  obtain ⟨first, others⟩ := List.forall_mem_cons.mp positive
  rw [pieces_listText, List.forall₂_cons, List.forall₂_map_right_iff, List.forall₂_same]
  exact ⟨isWritten_text first, fun other member => (isWritten_text (others other member)).cons rfl⟩

theorem parseList_listText (filled : ports ≠ []) (positive : ∀ port ∈ ports, port.number ≠ 0) :
    parseList (listText ports) = .ok ports :=
  parseList_eq_ok.mpr (forall₂_isWritten_listText filled positive)

/-- What is printed of a list of ports that can be opened is read as this list, so that
different lists are printed differently; and a tool whose environment has the printed list
is carried out with these ports. -/
theorem listText_exact :
    (∀ ports : List Port, ports ≠ [] → (∀ port ∈ ports, port.number ≠ 0) →
      parseList (listText ports) = .ok ports) ∧
      Set.InjOn listText {ports | ports ≠ [] ∧ ∀ port ∈ ports, port.number ≠ 0} ∧
      ∀ {σ : Type} (world : Azure.World σ) (environment : CommandLine.Environment)
        (ports : List Port), ports ≠ [] → (∀ port ∈ ports, port.number ≠ 0) →
        (∀ name ∈ Demo.requiredVariables, (List.lookup name environment).isSome = true) →
        List.lookup "CLOUD_PREPARE_PORTS" environment = some (listText ports) →
        Demo.validation world environment = (do
          Demo.say "=== Azure Real Environment Validation ==="
          Demo.carryOut world (Demo.assignment environment ports)) := by
  refine ⟨fun ports => parseList_listText, ?_, ?_⟩
  · rintro ports ⟨filled, positive⟩ others ⟨filled', positive'⟩ same
    have read := parseList_listText filled positive
    rw [same, parseList_listText filled' positive'] at read
    exact (Except.ok.inj read).symm
  · intro σ world environment ports filled positive required given
    have complete : Demo.requiredVariables.find?
        (fun name => (List.lookup name environment).isNone) = none := by
      rw [List.find?_eq_none]
      intro name member
      rw [← Option.not_isSome, required name member]
      exact Bool.false_ne_true
    rw [Demo.validation, complete, given, Option.getD_some]
    dsimp only
    rw [parseList_listText filled positive]

theorem listText_exact_sample :
    parseList (listText [⟨4500, .udp⟩, ⟨4490, .udp⟩, ⟨8080, .tcp⟩]) =
        .ok [⟨4500, .udp⟩, ⟨4490, .udp⟩, ⟨8080, .tcp⟩] ∧
      listText [⟨4500, .udp⟩, ⟨8080, .tcp⟩] ≠ listText [⟨8080, .tcp⟩, ⟨4500, .udp⟩] ∧
      Demo.validation (Azure.World.silent ⟨0⟩ : Azure.World Unit)
          [("AZURE_SUBSCRIPTION_ID", "sub"), ("CLOUD_PREPARE_INFRA_ID", "demo"),
            ("AZURE_REGION", "eastus"), ("CLOUD_PREPARE_RESOURCE_GROUP", "demo-rg"),
            ("CLOUD_PREPARE_PORTS", listText [⟨8080, .tcp⟩])] = (do
        Demo.say "=== Azure Real Environment Validation ==="
        Demo.carryOut (Azure.World.silent ⟨0⟩) (Demo.assignment
          [("AZURE_SUBSCRIPTION_ID", "sub"), ("CLOUD_PREPARE_INFRA_ID", "demo"),
            ("AZURE_REGION", "eastus"), ("CLOUD_PREPARE_RESOURCE_GROUP", "demo-rg"),
            ("CLOUD_PREPARE_PORTS", listText [⟨8080, .tcp⟩])] [⟨8080, .tcp⟩])) := by
  obtain ⟨read, apart, tool⟩ := listText_exact
  refine ⟨read _ (by decide) (by decide), fun same => ?_,
    tool _ _ _ (by decide) (by decide) (by decide) rfl⟩
  exact absurd (apart ⟨by decide, by decide⟩ ⟨by decide, by decide⟩ same) (by decide)

end Port

end ClusterPorts
