import Printworks.Graph.Cache
import Printworks.Proofs.Graph.Defaults

/-!
# What the cache answers

A graph in the cache was built from a declaration with the same hash. If hashes do not collide that
declaration has the same document, and so it is the given one itself, unless defaults hold numbers
that are not finite: documents do not tell those apart.
-/

namespace Printworks

namespace Graph

/-! ### Documents of declarations -/

/-- The defaults in a declaration. -/
def defaults (stages : List StageSpec) (attributes : Contract) : List Value :=
  stages.flatMap StageSpec.defaults ++ attributes.defaults

theorem isFinite_declarationDocument (stages : List StageSpec) (attributes : Contract) :
    (declarationDocument stages attributes).IsFinite := by
  have all : (stagesDocument stages).IsFinite := by
    apply Json.areFinite_iff.mpr
    intro item member
    obtain ⟨stage, -, rfl⟩ := List.mem_map.mp member
    exact stage.isFinite_encode
  exact ⟨all, attributes.isFinite_encode, trivial⟩

/-- Declarations with one document agree where defaults are replaced in a way that does not tell
apart what documents do not. -/
theorem mapDefaults_eq_of_document {f : Value → Value} {stages stages' : List StageSpec}
    {attributes attributes' : Contract} (respects : Respects f (defaults stages attributes))
    (same : declarationDocument stages attributes = declarationDocument stages' attributes') :
    stages.map (·.mapDefaults f) = stages'.map (·.mapDefaults f) ∧
      attributes.mapDefaults f = attributes'.mapDefaults f := by
  simp only [declarationDocument, stagesDocument, Json.object.injEq, Json.array.injEq,
    List.cons.injEq, Prod.mk.injEq, true_and, and_true] at same
  obtain ⟨first, second⟩ := Respects.append.mp respects
  obtain ⟨sameStages, sameAttributes⟩ := same
  refine ⟨?_, Contract.mapDefaults_eq_of_encode second sameAttributes⟩
  clear respects
  induction stages generalizing stages' with
  | nil => rw [List.map_eq_nil_iff.mp sameStages.symm]
  | cons stage rest ih =>
    cases stages' with
    | nil => cases sameStages
    | cons stage' rest' =>
      obtain ⟨heads, tails⟩ := List.cons.inj sameStages
      rw [List.flatMap_cons] at first
      obtain ⟨own, others⟩ := Respects.append.mp first
      rw [List.map_cons, List.map_cons, StageSpec.mapDefaults_eq_of_encode own heads,
        ih others tails]

/-- A declaration whose defaults are all finite is known from its document. -/
theorem eq_of_document {stages stages' : List StageSpec} {attributes attributes' : Contract}
    (finite : ∀ v ∈ defaults stages attributes, v.IsFinite)
    (same : declarationDocument stages attributes = declarationDocument stages' attributes') :
    stages = stages' ∧ attributes = attributes' := by
  have equal := mapDefaults_eq_of_document (respects_id finite) same
  simpa using equal

end Graph

namespace GraphCache

open Printworks.Graph

/-! ### Calls -/

/-- What a cache is asked to do. -/
inductive Call where
  | get (stages : List StageSpec) (attributes : Contract) (suffixes : Suffixes)
  | clear

/-- The text that is hashed for a call. -/
def Call.text? (call : Call) : Option String :=
  match call with
  | get stages attributes _ => some (declarationDocument stages attributes).compact
  | clear => none

def perform (cache : GraphCache) (call : Call) : GraphCache :=
  match call with
  | .get stages attributes suffixes => (cache.getOrBuild stages attributes suffixes).2.1
  | .clear => cache.clear

theorem perform_get (cache : GraphCache) (stages : List StageSpec) (attributes : Contract)
    (suffixes : Suffixes) : cache.perform (.get stages attributes suffixes) =
      (cache.getOrBuild stages attributes suffixes).2.1 := rfl

/-- The cache after some calls, none having been made before. -/
def after (calls : List Call) : GraphCache := calls.foldl perform ∅

/-- Whether the texts that are hashed for some calls have different hashes. -/
def HashedApart (calls : List Call) : Prop :=
  ∀ a ∈ calls.filterMap Call.text?, ∀ b ∈ calls.filterMap Call.text?,
    Sha256.hexDigest a = Sha256.hexDigest b → a = b

theorem hashedApart_of_same {calls : List Call} (call : Call) (same : ∀ c ∈ calls, c = call) :
    HashedApart calls := by
  intro a inA b inB _
  obtain ⟨x, memberX, textA⟩ := List.mem_filterMap.mp inA
  obtain ⟨y, memberY, textB⟩ := List.mem_filterMap.mp inB
  rw [same x memberX] at textA
  rw [same y memberY] at textB
  exact Option.some.inj (textA.symm.trans textB)

theorem hashedApart_singleton (call : Call) : HashedApart [call] :=
  hashedApart_of_same call (fun _ member => List.mem_singleton.mp member)

variable {cache : GraphCache} {stages : List StageSpec} {attributes : Contract}
  {suffixes : Suffixes}

/-- A graph is found, or there is none and the declaration has errors, or it is built and kept. -/
theorem getOrBuild_cases (cache : GraphCache) (stages : List StageSpec) (attributes : Contract)
    (suffixes : Suffixes) :
    (∃ shared, cache.graphs.get? (fingerprint stages attributes) = some shared ∧
      cache.getOrBuild stages attributes suffixes = (.ok shared, cache, suffixes)) ∨
    (cache.graphs.get? (fingerprint stages attributes) = none ∧
      ∃ errors, build stages attributes suffixes = .error errors ∧
        cache.getOrBuild stages attributes suffixes = (.error errors, cache, suffixes)) ∨
    (cache.graphs.get? (fingerprint stages attributes) = none ∧
      ∃ g rest, build stages attributes suffixes = .ok (g, rest) ∧
        cache.getOrBuild stages attributes suffixes = (.ok ⟨cache.built, g⟩,
          ⟨cache.graphs.insert (fingerprint stages attributes) ⟨cache.built, g⟩,
            cache.built + 1⟩, rest)) := by
  unfold getOrBuild
  cases found : cache.graphs.get? (fingerprint stages attributes) with
  | some shared => exact .inl ⟨shared, rfl, by simp only [found]⟩
  | none =>
    cases built : build stages attributes suffixes with
    | error errors => exact .inr (.inl ⟨rfl, errors, rfl, by simp only [found]⟩)
    | ok result => exact .inr (.inr ⟨rfl, result.1, result.2, rfl, by simp only [found]⟩)

theorem after_concat (calls : List Call) (call : Call) :
    after (calls ++ [call]) = (after calls).perform call := by
  rw [after, List.foldl_append]
  rfl

/-- Whether every graph in a cache was built for a call with the hash under which it is found. -/
def IsFilled (calls : List Call) (cache : GraphCache) : Prop :=
  ∀ key shared, cache.graphs.get? key = some shared → ∃ stages attributes suffixes,
    .get stages attributes suffixes ∈ calls ∧ fingerprint stages attributes = key ∧
      shared.graph.Accepts stages attributes suffixes

theorem IsFilled.weaken {calls : List Call} (filled : IsFilled calls cache) (call : Call) :
    IsFilled (calls ++ [call]) cache := by
  intro key shared found
  obtain ⟨stages, attributes, suffixes, member, rest⟩ := filled key shared found
  exact ⟨stages, attributes, suffixes, List.mem_append_left _ member, rest⟩

theorem IsFilled.perform {calls : List Call} (filled : IsFilled calls cache) (call : Call) :
    IsFilled (calls ++ [call]) (cache.perform call) := by
  cases call with
  | clear =>
    intro key shared found
    cases found
  | get stages attributes suffixes =>
    rw [perform_get]
    rcases getOrBuild_cases cache stages attributes suffixes with
      ⟨shared, -, eq⟩ | ⟨-, errors, -, eq⟩ | ⟨-, g, rest, built, eq⟩
    · rw [eq]
      exact filled.weaken _
    · rw [eq]
      exact filled.weaken _
    · rw [eq]
      intro key shared found
      rw [Dict.get?_insert] at found
      split at found
      next same =>
        cases found
        refine ⟨stages, attributes, suffixes, ?_, same, rest, built⟩
        exact List.mem_append_right _ List.mem_cons_self
      next => exact filled.weaken _ key shared found

theorem isFilled_after (calls : List Call) : IsFilled calls (after calls) := by
  induction calls using List.reverseRecOn with
  | nil =>
    intro key shared found
    cases found
  | append_singleton calls call ih =>
    rw [after_concat]
    exact ih.perform call

/-- What is found stays until the cache is cleared. -/
theorem get?_perform {key : String} {shared : SharedGraph}
    (found : cache.graphs.get? key = some shared) {call : Call} (keeps : call ≠ .clear) :
    (cache.perform call).graphs.get? key = some shared := by
  cases call with
  | clear => exact absurd rfl keeps
  | get stages attributes suffixes =>
    rw [perform_get]
    rcases getOrBuild_cases cache stages attributes suffixes with
      ⟨_, -, eq⟩ | ⟨-, _, -, eq⟩ | ⟨new, g, rest, -, eq⟩
    · rw [eq]
      exact found
    · rw [eq]
      exact found
    · rw [eq, Dict.get?_insert, if_neg]
      · exact found
      · rintro rfl
        rw [new] at found
        cases found

theorem get?_foldl_perform {key : String} {shared : SharedGraph} {calls : List Call}
    (kept : .clear ∉ calls) (found : cache.graphs.get? key = some shared) :
    (calls.foldl perform cache).graphs.get? key = some shared := by
  induction calls generalizing cache with
  | nil => exact found
  | cons call rest ih =>
    rw [List.mem_cons, not_or] at kept
    exact ih kept.2 (get?_perform found (Ne.symm kept.1))

/-! ### Answers -/

/-- What is answered is in the cache from then on. -/
theorem get?_of_answered {shared : SharedGraph}
    (answered : (cache.getOrBuild stages attributes suffixes).1 = .ok shared) :
    (cache.perform (.get stages attributes suffixes)).graphs.get?
      (fingerprint stages attributes) = some shared := by
  rw [perform_get]
  rcases getOrBuild_cases cache stages attributes suffixes with
    ⟨_, found, eq⟩ | ⟨-, _, -, eq⟩ | ⟨-, g, rest, -, eq⟩
  · rw [eq] at answered ⊢
    cases answered
    exact found
  · rw [eq] at answered
    cases answered
  · rw [eq] at answered ⊢
    cases answered
    exact Dict.get?_insert_self _ _ _

theorem answered_of_get? {shared : SharedGraph}
    (found : cache.graphs.get? (fingerprint stages attributes) = some shared) :
    (cache.getOrBuild stages attributes suffixes).1 = .ok shared := by
  simp only [getOrBuild, found]

/-- Whether a graph was built from a declaration with the same document as the given one. -/
def IsLike (stages : List StageSpec) (attributes : Contract) (g : Graph) : Prop :=
  ∃ stages' attributes' suffixes,
    declarationDocument stages attributes = declarationDocument stages' attributes' ∧
      g.Accepts stages' attributes' suffixes

/-- An answer is a graph built from a declaration with the same document. -/
theorem isLike_of_answered {calls : List Call}
    (apart : HashedApart (calls ++ [.get stages attributes suffixes])) {shared : SharedGraph}
    (answered : ((after calls).getOrBuild stages attributes suffixes).1 = .ok shared) :
    IsLike stages attributes shared.graph := by
  have found := get?_of_answered answered
  rw [← after_concat] at found
  obtain ⟨stages', attributes', suffixes', member, same, accepted⟩ :=
    isFilled_after _ _ _ found
  have text : (declarationDocument stages attributes).compact ∈
      (calls ++ [Call.get stages attributes suffixes]).filterMap Call.text? :=
    List.mem_filterMap.mpr ⟨_, List.mem_append_right _ List.mem_cons_self, rfl⟩
  have text' : (declarationDocument stages' attributes').compact ∈
      (calls ++ [Call.get stages attributes suffixes]).filterMap Call.text? :=
    List.mem_filterMap.mpr ⟨_, member, rfl⟩
  refine ⟨stages', attributes', suffixes', ?_, accepted⟩
  apply Json.compact_inj
  · exact isFinite_declarationDocument _ _
  · exact isFinite_declarationDocument _ _
  · exact apart _ text _ text' same.symm

namespace IsLike

variable {g : Graph}

theorem exists_accepts (like : IsLike stages attributes g) (suffixes : Suffixes) :
    ∃ g : Graph, g.Accepts stages attributes suffixes := by
  obtain ⟨stages', attributes', suffixes', same, accepted⟩ := like
  -- With all defaults null the two declarations are one.
  obtain ⟨bare, bareAttributes⟩ :=
    mapDefaults_eq_of_document (respects_const .null (defaults stages attributes)) same
  have bareAccepted := accepted.mapDefaults (fun _ => .null)
  rw [← bare, ← bareAttributes] at bareAccepted
  have original := (exists_accepts_mapDefaults (fun _ => .null)).mp ⟨_, bareAccepted⟩
  exact exists_accepts_suffixes suffixes original

/-- The graph is one of the declaration itself with other defaults. -/
theorem accepts_mapDefaults (like : IsLike stages attributes g) (value : Value) : ∃ suffixes,
    (g.mapDefaults fun _ => value).Accepts (stages.map (·.mapDefaults fun _ => value))
      (attributes.mapDefaults fun _ => value) suffixes := by
  obtain ⟨stages', attributes', suffixes', same, accepted⟩ := like
  obtain ⟨bare, bareAttributes⟩ :=
    mapDefaults_eq_of_document (respects_const value (defaults stages attributes)) same
  rw [bare, bareAttributes]
  exact ⟨suffixes', accepted.mapDefaults _⟩

theorem accepts (like : IsLike stages attributes g)
    (finite : ∀ v ∈ defaults stages attributes, v.IsFinite) :
    ∃ suffixes, g.Accepts stages attributes suffixes := by
  obtain ⟨stages', attributes', suffixes', same, accepted⟩ := like
  obtain ⟨rfl, rfl⟩ := eq_of_document finite same
  exact ⟨suffixes', accepted⟩

end IsLike

/-- A cache answers with a graph exactly where one could be built, and then with one of the
declaration itself if its defaults are finite, and of the declaration up to its defaults in any case.
It gives the same graph again until it is cleared, and keeps nothing where it gives none. -/
theorem getOrBuild_transparent (calls : List Call) (stages : List StageSpec) (attributes : Contract)
    (suffixes : Suffixes) (apart : HashedApart (calls ++ [.get stages attributes suffixes])) :
    let answer := (after calls).getOrBuild stages attributes suffixes
    ((∃ shared, answer.1 = .ok shared) ↔ ∃ g : Graph, g.Accepts stages attributes suffixes) ∧
    (∀ shared, answer.1 = .ok shared → (∀ v ∈ defaults stages attributes, v.IsFinite) →
      shared.graph.attributes = attributes ∧
        List.Forall₂ StageSpec.IsRenamed stages shared.graph.stages ∧
        ∃ given, shared.graph.Accepts stages attributes given) ∧
    (∀ shared, answer.1 = .ok shared → ∀ value, ∃ given,
      (shared.graph.mapDefaults fun _ => value).Accepts (stages.map (·.mapDefaults fun _ => value))
        (attributes.mapDefaults fun _ => value) given) ∧
    (∀ before middle given shared, calls = before ++ .get stages attributes given :: middle →
      .clear ∉ middle →
      ((after before).getOrBuild stages attributes given).1 = .ok shared →
      answer.1 = .ok shared) ∧
    (∀ errors, answer.1 = .error errors → build stages attributes suffixes = .error errors ∧
      answer.2.1 = after calls) := by
  intro answer
  refine ⟨⟨?_, ?_⟩, ?_, ?_, ?_, ?_⟩
  · rintro ⟨shared, answered⟩
    exact (isLike_of_answered apart answered).exists_accepts suffixes
  · rintro ⟨g, rest, built⟩
    -- What is found is as good an answer as what is built.
    rcases getOrBuild_cases (after calls) stages attributes suffixes with
      ⟨shared, -, eq⟩ | ⟨-, errors, failed, -⟩ | ⟨-, g, rest, -, eq⟩
    · exact ⟨shared, congrArg Prod.fst eq⟩
    · rw [built] at failed
      cases failed
    · exact ⟨_, congrArg Prod.fst eq⟩
  · intro shared answered finite
    obtain ⟨given, accepted⟩ := (isLike_of_answered apart answered).accepts finite
    refine ⟨accepted.checked.sameAttributes, ?_, given, accepted⟩
    rw [accepted.stages_eq]
    exact sources_renamed stages attributes given
  · intro shared answered value
    exact (isLike_of_answered apart answered).accepts_mapDefaults value
  · intro before middle given shared split kept answered
    -- The answer given before is found under the same hash.
    apply answered_of_get?
    have found := get?_of_answered answered
    rw [split, after, List.foldl_append, List.foldl_cons]
    exact get?_foldl_perform kept found
  · intro errors failed
    rcases getOrBuild_cases (after calls) stages attributes suffixes with
      ⟨shared, -, eq⟩ | ⟨-, errors', failed', eq⟩ | ⟨-, g, rest, -, eq⟩
    · rw [show answer = _ from eq] at failed
      cases failed
    · rw [show answer = _ from eq] at failed ⊢
      cases failed
      exact ⟨failed', rfl⟩
    · rw [show answer = _ from eq] at failed
      cases failed

/-- A stage that draws up to a limit, which has a default. -/
def limitStages (limit : Double) : List StageSpec :=
  [⟨"draw", ⟨[.plain "limit" .number (.hasDefault (.number limit))]⟩, ∅, ∅, ∅⟩]

/-- The graph of a stage with a limit. -/
def limitGraph (limit : Double) : Graph := ⟨limitStages limit, ∅, [[]], [[]], ∅, [0]⟩

theorem getOrBuild_transparent_limit :
    let two := limitStages (.ofInt 2)
    HashedApart [.get [] ∅ .numbered, .get two ∅ .numbered] ∧
      (∀ v ∈ defaults two ∅, v.IsFinite) ∧
      ∃ shared, ((after [.get [] ∅ .numbered]).getOrBuild two ∅ .numbered).1 = .ok shared ∧
        List.Forall₂ StageSpec.IsRenamed two shared.graph.stages := by
  intro two
  have apart : HashedApart [.get [] ∅ .numbered, .get two ∅ .numbered] := by
    have other : Sha256.hexDigest (declarationDocument [] ∅).compact ≠
        Sha256.hexDigest (declarationDocument two ∅).compact := by decide +kernel
    intro a inA b inB same
    simp only [List.filterMap_cons, Call.text?, List.filterMap_nil, List.mem_cons,
      List.not_mem_nil, or_false] at inA inB
    rcases inA with rfl | rfl
    · rcases inB with rfl | rfl
      · rfl
      · exact absurd same other
    · rcases inB with rfl | rfl
      · exact absurd same.symm other
      · rfl
  have finite : ∀ v ∈ defaults two ∅, v.IsFinite := by
    intro v member
    have is : v = .number (.ofInt 2) := List.mem_singleton.mp member
    rw [is]
    change (Double.ofInt 2).isFinite = true
    decide +kernel
  obtain ⟨succeeds, carries, -⟩ :=
    getOrBuild_transparent [.get [] ∅ .numbered] two ∅ .numbered apart
  obtain ⟨shared, answered⟩ := succeeds.mpr ⟨limitGraph (.ofInt 2), .numbered, rfl⟩
  obtain ⟨-, renamed, -⟩ := carries shared answered finite
  exact ⟨apart, finite, shared, answered, renamed⟩

/-- A stage without a limit above gets the graph of one without a limit below: both limits are
written as null. -/
theorem infinities_share_graph :
    let above := limitStages (.infinity false)
    let below := limitStages (.infinity true)
    HashedApart [.get below ∅ .numbered, .get above ∅ .numbered] ∧
      ∃ shared, ((after [.get below ∅ .numbered]).getOrBuild above ∅ .numbered).1 = .ok shared ∧
        ¬ List.Forall₂ StageSpec.IsRenamed above shared.graph.stages := by
  intro above below
  have same : declarationDocument above ∅ = declarationDocument below ∅ := rfl
  have answered : ((after []).getOrBuild below ∅ .numbered).1 =
      .ok ⟨0, limitGraph (.infinity true)⟩ := rfl
  have found := get?_of_answered answered
  constructor
  · intro a inA b inB _
    simp only [List.filterMap_cons, Call.text?, List.filterMap_nil, List.mem_cons,
      List.not_mem_nil, or_false, same, or_self] at inA inB
    rw [inA, inB]
  · refine ⟨⟨0, limitGraph (.infinity true)⟩, answered_of_get? ?_, ?_⟩
    · rw [fingerprint, same]
      exact found
    · intro renamed
      have head := (List.forall₂_cons.mp renamed).1
      have inputs := congrArg StageSpec.inputs head.frame
      exact absurd inputs (by decide)

end GraphCache

end Printworks
