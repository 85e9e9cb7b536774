import VantGrowth.Core.HandoffPayloads

namespace VantGrowth.Proofs.HandoffParsing
open Core Db Lib

/-! What the parser accepts, and the versions it mistakes for registered ones. -/

section
variable (isUrl : String → Bool)

/-- The contract that a registered version reads off an object. -/
inductive Reads (p : Payload) : HandoffContract → Prop where
  | intelBrief (brief : IntelBriefV1) :
    p.lookup "schema_version" = some (.str "intel_brief.v1") →
      intelBriefV1Schema isUrl p = some brief → Reads p (.intelBrief brief)
  | contentOpportunity (opportunity : ContentOpportunityV1) :
    p.lookup "schema_version" = some (.str "content_opportunity.v1") →
      contentOpportunityV1Schema isUrl p = some opportunity →
        Reads p (.contentOpportunity opportunity)
  | contentBrief (brief : ContentBriefV1) :
    p.lookup "schema_version" = some (.str "content_brief.v1") →
      contentBriefV1Schema p = some brief → Reads p (.contentBrief brief)
  | blogDraft (draft : BlogDraftV1) :
    p.lookup "schema_version" = some (.str "blog_draft.v1") →
      blogDraftV1Schema isUrl p = some draft → Reads p (.blogDraft draft)

def registered : List String :=
  ["intel_brief.v1", "content_opportunity.v1", "content_brief.v1", "blog_draft.v1"]

def unknownVersion (version : String) : HandoffError :=
  .error ("Unknown handoff contract version: " ++ version)

/-- The schema that is found for a version reads its contract. -/
theorem found_reads {version : String} {schema : Payload → Option HandoffContract}
    (found : (HANDOFF_CONTRACT_SCHEMAS isUrl).lookup version = some schema) {p : Payload}
    (stated : p.lookup "schema_version" = some (.str version)) (contract : HandoffContract) :
    schema p = some contract ↔ Reads isUrl p contract := by
  simp only [HANDOFF_CONTRACT_SCHEMAS, List.lookup_cons, List.lookup_nil] at found
  constructor
  · intro read
    split at found
    · rename_i same
      obtain rfl := eq_of_beq same
      cases found
      obtain ⟨brief, accepted, rfl⟩ := Option.map_eq_some_iff.mp read
      exact .intelBrief brief stated accepted
    split at found
    · rename_i same
      obtain rfl := eq_of_beq same
      cases found
      obtain ⟨opportunity, accepted, rfl⟩ := Option.map_eq_some_iff.mp read
      exact .contentOpportunity opportunity stated accepted
    split at found
    · rename_i same
      obtain rfl := eq_of_beq same
      cases found
      obtain ⟨brief, accepted, rfl⟩ := Option.map_eq_some_iff.mp read
      exact .contentBrief brief stated accepted
    split at found
    · rename_i same
      obtain rfl := eq_of_beq same
      cases found
      obtain ⟨draft, accepted, rfl⟩ := Option.map_eq_some_iff.mp read
      exact .blogDraft draft stated accepted
    · cases found
  · intro reads
    cases reads with
    | intelBrief brief stated' accepted =>
      rw [stated] at stated'
      cases stated'
      cases found
      exact Option.map_eq_some_iff.mpr ⟨brief, accepted, rfl⟩
    | contentOpportunity opportunity stated' accepted =>
      rw [stated] at stated'
      cases stated'
      cases found
      exact Option.map_eq_some_iff.mpr ⟨opportunity, accepted, rfl⟩
    | contentBrief brief stated' accepted =>
      rw [stated] at stated'
      cases stated'
      cases found
      exact Option.map_eq_some_iff.mpr ⟨brief, accepted, rfl⟩
    | blogDraft draft stated' accepted =>
      rw [stated] at stated'
      cases stated'
      cases found
      exact Option.map_eq_some_iff.mpr ⟨draft, accepted, rfl⟩

theorem found_iff (version : String) :
    ((HANDOFF_CONTRACT_SCHEMAS isUrl).lookup version).isSome = true ↔ version ∈ registered := by
  have keys : (HANDOFF_CONTRACT_SCHEMAS isUrl).map (·.1) = registered := rfl
  rw [List.lookup_isSome_iff, ← keys]
  simp only [List.mem_map, beq_iff_eq]
  constructor
  · rintro ⟨entry, member, same⟩
    exact ⟨entry, member, same.symm⟩
  · rintro ⟨entry, member, same⟩
    exact ⟨entry, member, same.symm⟩

/-- A version is registered, inherited or neither, and not two of these. -/
theorem inherited_unregistered {version : String} (inherited : version ∈ objectPrototype) :
    version ∉ registered := by
  have apart : objectPrototype.all (fun version => !registered.contains version) = true := by decide
  simpa using List.all_eq_true.mp apart version inherited

theorem parse_found {version : String} {schema : Payload → Option HandoffContract} {p : Payload}
    (stated : p.lookup "schema_version" = some (.str version))
    (found : (HANDOFF_CONTRACT_SCHEMAS isUrl).lookup version = some schema) :
    parseHandoffContract isUrl (.obj p) = (schema p).elim (.error .zod) .ok := by
  simp [parseHandoffContract, stated, isHandoffContractVersion, found]

theorem lookup_unregistered {version : String} (other : version ∉ registered) :
    (HANDOFF_CONTRACT_SCHEMAS isUrl).lookup version = none := by
  rw [← found_iff isUrl] at other
  exact Option.not_isSome_iff_eq_none.mp other

theorem parse_inherited {version : String} {p : Payload}
    (stated : p.lookup "schema_version" = some (.str version))
    (inherited : version ∈ objectPrototype) :
    parseHandoffContract isUrl (.obj p) = .error .typeError := by
  have missing := lookup_unregistered isUrl (inherited_unregistered inherited)
  simp [parseHandoffContract, stated, isHandoffContractVersion, missing, inherited]

theorem parse_unknown {version : String} {p : Payload}
    (stated : p.lookup "schema_version" = some (.str version)) (other : version ∉ registered)
    (own : version ∉ objectPrototype) :
    parseHandoffContract isUrl (.obj p) = .error (unknownVersion version) := by
  have missing := lookup_unregistered isUrl other
  simp [parseHandoffContract, stated, isHandoffContractVersion, missing, own, unknownVersion]

theorem reads_stated {p : Payload} {contract : HandoffContract} (reads : Reads isUrl p contract) :
    ∃ version ∈ registered, p.lookup "schema_version" = some (.str version) := by
  cases reads with
  | intelBrief _ stated _ => exact ⟨_, by decide, stated⟩
  | contentOpportunity _ stated _ => exact ⟨_, by decide, stated⟩
  | contentBrief _ stated _ => exact ⟨_, by decide, stated⟩
  | blogDraft _ stated _ => exact ⟨_, by decide, stated⟩

/-- What is returned is what an object's own version reads off it. -/
theorem parse_ok_iff (j : Json) (contract : HandoffContract) :
    parseHandoffContract isUrl j = .ok contract ↔ ∃ p, j = .obj p ∧ Reads isUrl p contract := by
  constructor
  · intro returned
    unfold parseHandoffContract at returned
    split at returned
    · rename_i p
      split at returned
      · rename_i version stated
        split at returned
        · split at returned
          · rename_i schema found
            cases read : schema p with
            | none =>
              rw [read] at returned
              cases returned
            | some c =>
              rw [read] at returned
              cases returned
              exact ⟨p, rfl, (found_reads isUrl found stated contract).mp read⟩
          · cases returned
        · cases returned
      · cases returned
    · cases returned
  · rintro ⟨p, rfl, reads⟩
    obtain ⟨version, known, stated⟩ := reads_stated isUrl reads
    obtain ⟨schema, found⟩ := Option.isSome_iff_exists.mp ((found_iff isUrl version).mpr known)
    rw [parse_found isUrl stated found, (found_reads isUrl found stated contract).mpr reads]
    rfl

/-- What is read off an object is read again off what is returned. -/
theorem reads_again {p : Payload} {contract : HandoffContract} (reads : Reads isUrl p contract) :
    Reads isUrl contract.toPayload contract := by
  cases reads with
  | intelBrief brief _ accepted =>
    have valid := (Option.filter_eq_some_iff.mp accepted).2
    exact .intelBrief brief rfl (intelBrief_accepted isUrl brief valid)
  | contentOpportunity opportunity _ accepted =>
    have valid := (Option.filter_eq_some_iff.mp accepted).2
    exact .contentOpportunity opportunity rfl (contentOpportunity_accepted isUrl opportunity valid)
  | contentBrief brief _ accepted =>
    have valid := (Option.filter_eq_some_iff.mp accepted).2
    exact .contentBrief brief rfl (contentBrief_accepted brief valid)
  | blogDraft draft _ accepted =>
    have valid := (Option.filter_eq_some_iff.mp accepted).2
    exact .blogDraft draft rfl (blogDraft_accepted isUrl draft valid)

/-- The parser accepts what a registered version reads, names an unknown version
and accepts what it returned as that. -/
structure Exact (j : Json) : Prop where
  returns : ∀ contract, parseHandoffContract isUrl j = .ok contract ↔
    ∃ p, j = .obj p ∧ Reads isUrl p contract
  unknown : ∀ p version, j = .obj p → p.lookup "schema_version" = some (.str version) →
    version ∉ registered → parseHandoffContract isUrl j = .error (unknownVersion version)
  again : ∀ contract, parseHandoffContract isUrl j = .ok contract →
    parseHandoffContract isUrl (.obj contract.toPayload) = .ok contract

/-- The parser is exact on the values whose version no plain object inherits. -/
theorem handoff_parsed (j : Json) : Exact isUrl j ↔ ∀ p version, j = .obj p →
    p.lookup "schema_version" = some (.str version) → version ∉ objectPrototype := by
  constructor
  · rintro ⟨-, unknown, -⟩ p version rfl stated inherited
    have thrown := unknown p version rfl stated (inherited_unregistered inherited)
    rw [parse_inherited isUrl stated inherited] at thrown
    cases thrown
  · intro own
    refine ⟨parse_ok_iff isUrl j, ?_, ?_⟩
    · rintro p version rfl stated other
      exact parse_unknown isUrl stated other (own p version rfl stated)
    · intro contract returned
      obtain ⟨p, -, reads⟩ := (parse_ok_iff isUrl j contract).mp returned
      exact (parse_ok_iff isUrl _ contract).mpr ⟨_, rfl, reads_again isUrl reads⟩

end

/-- A version that every object inherits is looked up and called. -/
theorem inherited_version_called : ¬ ∀ (isUrl : String → Bool) (j : Json), Exact isUrl j := by
  intro claim
  have exact_ := claim (fun _ => false) (.obj [("schema_version", .str "toString")])
  have thrown := exact_.unknown _ "toString" rfl rfl (by decide)
  cases thrown

end VantGrowth.Proofs.HandoffParsing
