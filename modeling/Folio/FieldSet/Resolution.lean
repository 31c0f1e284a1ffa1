import Folio.Fault
import Folio.FieldSet
import Folio.Schema

/-!
# Resolving a schema

Every orderable field of a schema gets an identifier, unless its identifier
spells that of the creation time, which is always there.  Two fields with one
identifier are in conflict, as is a field without any.
-/

namespace Folio

structure OrderSource where
  identifier : Text
  field : FieldDescriptor
  deriving DecidableEq

namespace OrderSource

def ofField (field : FieldDescriptor) : OrderSource where
  identifier := Identifier.capitalize field.name
  field

def collect (earlier : List OrderSource) :
    List FieldDescriptor → Except Fault (List OrderSource)
  | [] => .ok []
  | field :: later =>
      let source := ofField field
      if source.identifier = "" then
        .error (.conflict source.identifier field.name none)
      else if Identifier.spellsCreatedAt source.identifier then
        collect earlier later
      else
        match earlier.find? (·.identifier == source.identifier) with
        | some previous =>
            .error (.conflict source.identifier previous.field.name
              (some field.name))
        | none => do
            let sources ← collect (earlier ++ [source]) later
            return source :: sources

theorem ne_createdAt_of_mem_collect {earlier sources : List OrderSource}
    {fields : List FieldDescriptor} {source : OrderSource}
    (collected : collect earlier fields = .ok sources)
    (member : source ∈ sources) :
    source.identifier ≠ Identifier.createdAt := by
  induction fields generalizing earlier sources with
  | nil =>
      simp only [collect, Except.ok.injEq] at collected
      subst collected
      cases member
  | cons field later inductionHypothesis =>
      simp only [collect] at collected
      split at collected
      · cases collected
      · split at collected
        · exact inductionHypothesis collected member
        · rename_i otherwise
          split at collected
          · cases collected
          · cases rest : collect (earlier ++ [ofField field]) later with
            | error fault => simp [rest, bind, Except.bind] at collected
            | ok tail =>
                simp only [rest, bind, Except.bind, pure, Except.pure,
                  Except.ok.injEq] at collected
                subst collected
                rcases List.mem_cons.mp member with rfl | tailMember
                · exact Identifier.ne_createdAt_of_not_spells
                    (by simpa using otherwise)
                · exact inductionHypothesis rest tailMember

/-- Together with the earlier identifiers, the collected ones stay without
repetition. -/
theorem nodup_append_collect {earlier sources : List OrderSource}
    {fields : List FieldDescriptor}
    (fresh : (earlier.map (·.identifier)).Nodup)
    (collected : collect earlier fields = .ok sources) :
    ((earlier ++ sources).map (·.identifier)).Nodup := by
  induction fields generalizing earlier sources with
  | nil =>
      simp only [collect, Except.ok.injEq] at collected
      subst collected
      simpa using fresh
  | cons field later inductionHypothesis =>
      simp only [collect] at collected
      split at collected
      · cases collected
      · split at collected
        · exact inductionHypothesis fresh collected
        · split at collected
          · cases collected
          · rename_i unseen
            cases rest : collect (earlier ++ [ofField field]) later with
            | error fault => simp [rest, bind, Except.bind] at collected
            | ok tail =>
                simp only [rest, bind, Except.bind, pure, Except.pure,
                  Except.ok.injEq] at collected
                subst collected
                have absent : ∀ source ∈ earlier,
                    source.identifier ≠ (ofField field).identifier := by
                  simpa using List.find?_eq_none.mp unseen
                have extended :
                    ((earlier ++ [ofField field]).map (·.identifier)).Nodup := by
                  rw [List.map_append, List.nodup_append]
                  refine ⟨fresh, by simp, ?_⟩
                  intro left leftMember right rightMember
                  obtain ⟨source, sourceMember, rfl⟩ := List.mem_map.mp leftMember
                  simp only [List.map_cons, List.map_nil,
                    List.mem_singleton] at rightMember
                  subst rightMember
                  exact absent source sourceMember
                simpa using inductionHypothesis extended rest

/-- The identifier of the field of the default order, otherwise of the first
field, otherwise the creation time. -/
def defaultIdentifier (sources : List OrderSource) : Text :=
  match sources.find? (·.field.isDefaultOrder) with
  | some source => source.identifier
  | none => (sources.map (·.identifier)).headD Identifier.createdAt

theorem defaultIdentifier_mem (sources : List OrderSource) :
    defaultIdentifier sources ∈
      Identifier.createdAt :: sources.map (·.identifier) := by
  unfold defaultIdentifier
  split
  · rename_i source found
    exact List.mem_cons_of_mem _
      (List.mem_map_of_mem (List.mem_of_find?_eq_some found))
  · cases sources <;> simp

end OrderSource

namespace EntitySchema

/-- The fields of a schema that have an identifier of their own, in declaration
order. -/
def orderSources (schema : EntitySchema) : Except Fault (List OrderSource) :=
  OrderSource.collect [] schema.orderableFields

def resolve (schema : EntitySchema) : Except Fault FieldSet :=
  match collected : schema.orderSources with
  | .error fault => .error fault
  | .ok sources =>
      .ok {
        fields := Identifier.createdAt :: sources.map (·.identifier)
        default := OrderSource.defaultIdentifier sources
        starts_createdAt := rfl
        fields_nodup := by
          refine List.nodup_cons.mpr ⟨?_, ?_⟩
          · intro member
            obtain ⟨source, sourceMember, same⟩ := List.mem_map.mp member
            exact OrderSource.ne_createdAt_of_mem_collect collected
              sourceMember same
          · have start : (([] : List OrderSource).map (·.identifier)).Nodup :=
              List.nodup_nil
            simpa using OrderSource.nodup_append_collect start collected
        default_mem := OrderSource.defaultIdentifier_mem sources }

end EntitySchema

end Folio
