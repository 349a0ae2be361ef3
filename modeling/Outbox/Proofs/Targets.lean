import Outbox.Proofs.Segments
import Outbox.Remote.Endpoint

/-!
# Whom an address names

An update and a removal are sent to an address below the collection of the kind. That address names
the entity, in that its last segment is read back as the id, exactly if the id can stand as a
segment and the path of the base is not two slashes. An id of one or two dots leaves the address of
the collection itself, and a tab or a line end is lost on the way, which makes the address another
id's. For all other ids the address tells the entities of a kind apart, and it is never one that a
creation uses.
-/
namespace Outbox

namespace EntityKind

theorem slash_not_mem_name (k : EntityKind) : '/' ∉ k.name.toList := by
  cases k <;> decide

theorem name_length (k : EntityKind) : 2 < k.name.toList.length := by
  cases k <;> decide

/-- The name of a kind stands in an address as it is. -/
theorem name_coded (k : EntityKind) (kind : Url.SchemeKind) :
    Url.encode (Url.newSegmentSet kind) (Url.unstripped k.name.toList) = k.name.toList := by
  cases k <;> cases kind <;> decide

theorem name_undotted (k : EntityKind) :
    Url.unstripped k.name.toList ≠ ['.'] ∧ Url.unstripped k.name.toList ≠ ['.', '.'] := by
  cases k <;> decide

theorem name_driveless (k : EntityKind) :
    ':' ∉ k.name.toList ∧ Url.isDrive k.name.toList = false := by
  cases k <;> decide

end EntityKind

namespace Endpoint

/-- The id can stand as a segment of an address: it is not a dot segment, and nothing of it is
stripped. -/
def Addressable (id : String) : Prop :=
  id ≠ "." ∧ id ≠ ".." ∧ ∀ c ∈ id.toList, Url.isStripped c = false

instance (id : String) : Decidable (Addressable id) :=
  decidable_of_iff (id ≠ "." ∧ id ≠ ".." ∧ id.toList.all (fun c => !Url.isStripped c) = true)
    (by simp [Addressable])

/-- An address names an entity: the trimmed path of the base has two more segments, the kind and
one that is read as the id. Everything else is as in the base. -/
def Names (base address : Url) (kind : EntityKind) (id : String) : Prop :=
  ∃ segment, '/' ∉ segment ∧ Url.decode segment = Text.bytes id ∧
    address = base.withPath
      (Url.trimmed base.path ++ '/' :: kind.name.toList ++ '/' :: segment)

/-- The path of a collection. -/
def collectionPath (base : Url) (kind : EntityKind) : List Char :=
  Url.stem (Url.dropEmptyEnd base.path) ++ '/' :: kind.name.toList

variable {e : Endpoint} {m c : Mutation}

theorem collectionPath_length (base : Url) (kind : EntityKind) :
    2 < (collectionPath base kind).length := by
  have long := kind.name_length
  rw [collectionPath, List.length_append, List.length_cons]
  omega

theorem collectionPath_rooted {base : Url} (rooted : Url.Rooted base.kind base.path)
    (kind : EntityKind) : Url.Rooted base.kind (collectionPath base kind) :=
  (Url.dropEmptyEnd_rooted rooted).below kind.slash_not_mem_name

theorem collection_eq {base : Url} (rooted : Url.Rooted base.kind base.path) (kind : EntityKind) :
    base.withoutEmptyEnd.child kind.name = base.withPath (collectionPath base kind) := by
  have added : Url.pushSegment base.kind (Url.dropEmptyEnd base.path) kind.name.toList
      = collectionPath base kind := by
    rw [Url.pushSegment_plain (Url.dropEmptyEnd_rooted rooted) kind.name_undotted.1
      kind.name_undotted.2 (.inr (by rw [kind.name_coded]; exact kind.name_driveless)),
      kind.name_coded, collectionPath]
  exact congrArg base.withPath added

theorem target_create (rooted : Url.Rooted e.base.kind e.base.path)
    (create : c.operation = .create) :
    (e.target c).2 = e.base.withPath (collectionPath e.base c.kind) := by
  simp only [target, create, collection_eq rooted]

theorem target_entity (rooted : Url.Rooted e.base.kind e.base.path)
    (entity : m.operation ≠ .create) :
    (e.target m).2 = e.base.withPath
      (Url.pushSegment e.base.kind (collectionPath e.base m.kind) m.entityId.toList) := by
  have below : (e.target m).2 = (e.base.withoutEmptyEnd.child m.kind.name).child m.entityId := by
    simp only [target]
  rw [below, collection_eq rooted]
  rfl

/-- What is read back of the segment that an id becomes. -/
theorem entityPath_eq {base : Url} (rooted : Url.Rooted base.kind base.path) (kind : EntityKind)
    {id : List Char} (single : Url.unstripped id ≠ ['.'])
    (double : Url.unstripped id ≠ ['.', '.']) :
    Url.pushSegment base.kind (collectionPath base kind) id
      = collectionPath base kind ++
        '/' :: Url.encode (Url.newSegmentSet base.kind) (Url.unstripped id) := by
  have long := collectionPath_length base kind
  have own : Url.stem (collectionPath base kind) = collectionPath base kind := if_neg (by omega)
  rw [Url.pushSegment_plain (collectionPath_rooted rooted kind) single double
    (.inl (by rwa [own])), own]

theorem Addressable.unstripped_eq {id : String} (fit : Addressable id) :
    Url.unstripped id.toList = id.toList :=
  List.filter_eq_self.mpr fun c mem => by rw [fit.2.2 c mem, Bool.not_false]

theorem addressable_of_unstripped_eq {id : String} (whole : Url.unstripped id.toList = id.toList)
    (single : Url.unstripped id.toList ≠ ['.']) (double : Url.unstripped id.toList ≠ ['.', '.']) :
    Addressable id := by
  rw [whole] at single double
  refine ⟨fun same => single (by rw [same]; rfl), fun same => double (by rw [same]; rfl), ?_⟩
  intro c mem
  have kept := List.filter_eq_self.mp whole c mem
  rwa [Bool.not_eq_true'] at kept

theorem Addressable.undotted {id : String} (fit : Addressable id) :
    Url.unstripped id.toList ≠ ['.'] ∧ Url.unstripped id.toList ≠ ['.', '.'] := by
  rw [fit.unstripped_eq]
  exact ⟨fun same => fit.1 (String.toList_inj.mp same),
    fun same => fit.2.1 (String.toList_inj.mp same)⟩

theorem target_of_addressable (rooted : Url.Rooted e.base.kind e.base.path)
    (entity : m.operation ≠ .create) (fit : Addressable m.entityId) :
    (e.target m).2 = e.base.withPath (collectionPath e.base m.kind ++
      '/' :: Url.encode (Url.newSegmentSet e.base.kind) m.entityId.toList) := by
  rw [target_entity rooted entity, entityPath_eq rooted m.kind fit.undotted.1 fit.undotted.2,
    fit.unstripped_eq]

theorem decode_coded (kind : Url.SchemeKind) (id : String) :
    Url.decode (Url.encode (Url.newSegmentSet kind) id.toList) = Text.bytes id := by
  rw [Url.decode_encode (Url.newSegmentSet_percent kind), Url.utf8Bytes_toList]

theorem collectionPath_of_filled {base : Url} (rooted : Url.Rooted base.kind base.path)
    (filled : base.path ≠ ['/', '/']) (kind : EntityKind) :
    collectionPath base kind = Url.trimmed base.path ++ '/' :: kind.name.toList := by
  rw [collectionPath, Url.stem_dropEmptyEnd rooted filled]

/-- An id whose address names it can stand as a segment. -/
theorem addressable_of_entityPath {base : Url} (rooted : Url.Rooted base.kind base.path)
    {kind : EntityKind} {id : String} {segment : List Char}
    (reads : Url.decode segment = Text.bytes id)
    (path : Url.pushSegment base.kind (collectionPath base kind) id.toList
      = collectionPath base kind ++ '/' :: segment) : Addressable id := by
  by_cases dots : Url.unstripped id.toList = ['.'] ∨ Url.unstripped id.toList = ['.', '.']
  · have short := Url.pushSegment_dots_length_le (collectionPath_rooted rooted kind)
      (collectionPath_length base kind) dots
    rw [path, List.length_append, List.length_cons] at short
    have none : segment = [] := List.eq_nil_of_length_eq_zero (by omega)
    subst none
    have nothing : "" = id := Text.bytes_inj (Eq.trans rfl reads)
    subst nothing
    exact absurd dots (by decide)
  · obtain ⟨single, double⟩ := not_or.mp dots
    have coded := entityPath_eq rooted kind single double
    rw [path, List.append_cancel_left_eq, List.cons.injEq] at coded
    rw [coded.2, Url.decode_encode (Url.newSegmentSet_percent base.kind),
      ← Url.utf8Bytes_toList] at reads
    exact addressable_of_unstripped_eq (Url.utf8Bytes_inj reads) single double

theorem text_ne_of_path_ne {base : Url} {cs ds : List Char} (first : cs.head? ≠ some '/')
    (second : ds.head? ≠ some '/')
    (differ : cs ≠ ds) :
    (base.withPath (Url.stem (Url.dropEmptyEnd base.path) ++ '/' :: cs)).text
      ≠ (base.withPath (Url.stem (Url.dropEmptyEnd base.path) ++ '/' :: ds)).text := by
  intro same
  have long : (Url.stem (Url.dropEmptyEnd base.path)).length ≠ 1 := by
    unfold Url.stem
    split
    · decide
    · assumption
  -- Both paths start with two slashes or none does, as the base decides it or the first segments.
  have doubled : (Url.stem (Url.dropEmptyEnd base.path) ++ '/' :: cs).take 2 = ['/', '/'] ↔
      (Url.stem (Url.dropEmptyEnd base.path) ++ '/' :: ds).take 2 = ['/', '/'] := by
    match Url.stem (Url.dropEmptyEnd base.path), long with
    | [], _ =>
      have apart {xs : List Char} (head : xs.head? ≠ some '/') :
          ([] ++ '/' :: xs).take 2 ≠ ['/', '/'] := by
        rintro here
        match xs, head, here with
        | x :: _, head, here =>
          cases here
          exact head rfl
      exact iff_of_false (apart first) (apart second)
    | a :: b :: rest, _ => exact Iff.rfl
  have paths := List.append_cancel_left (Url.path_eq_of_text_eq doubled same)
  exact differ (List.cons.inj paths).2

theorem name_head? (kind : EntityKind) (rest : List Char) :
    (kind.name.toList ++ rest).head? ≠ some '/' := by
  cases kind <;> exact fun head => by cases head

/-- Below a path of two slashes nothing is named: only one of them is kept. -/
theorem not_names_below_slashes {base : Url} (rooted : Url.Rooted base.kind base.path)
    (slashes : base.path = ['/', '/']) (kind : EntityKind) (id : String) (segment : List Char) :
    Url.pushSegment base.kind (collectionPath base kind) id.toList
      ≠ Url.trimmed base.path ++ '/' :: kind.name.toList ++ '/' :: segment := by
  have above : collectionPath base kind = '/' :: kind.name.toList := by
    rw [collectionPath, slashes]
    rfl
  rw [slashes]
  intro path
  by_cases dots : Url.unstripped id.toList = ['.'] ∨ Url.unstripped id.toList = ['.', '.']
  · have short := Url.pushSegment_dots_length_le (collectionPath_rooted rooted kind)
      (collectionPath_length base kind) dots
    rw [path, above] at short
    have wanted : (Url.trimmed ['/', '/']).length = 1 := rfl
    simp only [List.length_append, List.length_cons, wanted] at short
    omega
  · obtain ⟨single, double⟩ := not_or.mp dots
    rw [entityPath_eq rooted kind single double, above] at path
    have tails : kind.name.toList ++ '/' :: _ = '/' :: (kind.name.toList ++ '/' :: segment) :=
      (List.cons.inj path).2
    exact name_head? kind _ (by rw [tails]; rfl)

theorem rooted_of_ofText {url : String} (read : ofText url = .ok e) :
    Url.Rooted e.base.kind e.base.path := by
  unfold ofText at read
  split at read
  · cases read
  case h_2 base parsed =>
    split at read
    · cases read
      exact Url.parse_rooted parsed ‹_›
    · cases read

theorem target_names_iff (rooted : Url.Rooted e.base.kind e.base.path)
    (entity : m.operation ≠ .create) :
    Names e.base (e.target m).2 m.kind m.entityId ↔
      Addressable m.entityId ∧ e.base.path ≠ ['/', '/'] := by
  constructor
  · rintro ⟨segment, -, reads, named⟩
    rw [target_entity rooted entity] at named
    have path := congrArg Url.path named
    simp only [Url.withPath] at path
    have filled : e.base.path ≠ ['/', '/'] := fun slashes =>
      not_names_below_slashes rooted slashes m.kind m.entityId segment path
    rw [← collectionPath_of_filled rooted filled] at path
    exact ⟨addressable_of_entityPath rooted reads path, filled⟩
  · rintro ⟨fit, filled⟩
    refine ⟨_, Url.slash_not_mem_encode e.base.kind m.entityId.toList, decode_coded _ _, ?_⟩
    rw [target_of_addressable rooted entity fit, collectionPath_of_filled rooted filled]

theorem target_names_entity_iff {url : String} (read : ofText url = .ok e) :
    (∀ m, m.operation ≠ .create →
      (Names e.base (e.target m).2 m.kind m.entityId ↔
        Addressable m.entityId ∧ e.base.path ≠ ['/', '/'])) ∧
    (∀ m n, m.operation ≠ .create → n.operation ≠ .create → m.kind = n.kind →
      Addressable m.entityId → Addressable n.entityId → m.entityId ≠ n.entityId →
        (e.target m).2.text ≠ (e.target n).2.text) ∧
    (∀ m c, m.operation ≠ .create → c.operation = .create → Addressable m.entityId →
      (e.target m).2.text ≠ (e.target c).2.text) := by
  have rooted := rooted_of_ofText read
  refine ⟨fun m entity => target_names_iff rooted entity, ?_, ?_⟩
  · intro m n first second kind fit fit' differ
    rw [target_of_addressable rooted first fit, target_of_addressable rooted second fit', kind]
    simp only [collectionPath, List.append_assoc, List.cons_append]
    refine text_ne_of_path_ne (name_head? _ _) (name_head? _ _) fun same => differ ?_
    -- Equal last segments are decoded to equal ids.
    have coded := (List.cons.inj (List.append_cancel_left same)).2
    have bytes := congrArg Url.decode coded
    rw [decode_coded, decode_coded] at bytes
    exact Text.bytes_inj bytes
  · intro m c entity create fit
    rw [target_of_addressable rooted entity fit, target_create rooted create]
    simp only [collectionPath, List.append_assoc, List.cons_append]
    -- The address of a creation ends with the name of the kind, which has no slash in it.
    refine text_ne_of_path_ne (name_head? _ _) ?_ fun same => ?_
    · have head := name_head? c.kind []
      rwa [List.append_nil] at head
    · refine c.kind.slash_not_mem_name ?_
      rw [← same]
      exact List.mem_append_right _ List.mem_cons_self

/-- A service on this machine. -/
def sampleEndpoint : Endpoint where
  base := ⟨"http".toList, some ⟨[], none, some (.ipv6 [0, 0, 0, 0, 0, 0, 0, 1]), some 8080⟩,
    "/api/".toList, none, none⟩
  base_canBeBase := rfl

theorem sampleEndpoint_read : ofText "http://[::1]:8080/api/" = .ok sampleEndpoint := by rfl

def sampleChange (operation : Operation) (id : String) : Mutation :=
  .fresh "m" operation .incidents id .null .epoch

/-- Two ids that are each other's encoding have two addresses, and neither is the collection's. -/
theorem coded_id_addressed :
    Names sampleEndpoint.base (sampleEndpoint.target (sampleChange .update "a/b")).2 .incidents
        "a/b" ∧
      (sampleEndpoint.target (sampleChange .update "a/b")).2.text ≠
        (sampleEndpoint.target (sampleChange .delete "a%2Fb")).2.text ∧
      (sampleEndpoint.target (sampleChange .update "a/b")).2.text ≠
        (sampleEndpoint.target (sampleChange .create "a/b")).2.text := by
  have slashed : Addressable "a/b" := by decide
  have coded : Addressable "a%2Fb" := by decide
  obtain ⟨named, apart, below⟩ := target_names_entity_iff sampleEndpoint_read
  exact ⟨(named _ (by decide)).mpr ⟨slashed, by decide⟩,
    apart _ _ (by decide) (by decide) rfl slashed coded (by decide),
    below _ _ (by decide) rfl slashed⟩

/-- A removal of the entity whose id is a dot is sent to the whole collection. -/
theorem dot_addresses_collection :
    ofText "http://[::1]:8080/api/" = .ok sampleEndpoint ∧
      (sampleEndpoint.target (sampleChange .delete ".")).2.text =
        "http://[::1]:8080/api/incidents" ∧
      (sampleEndpoint.target (sampleChange .delete ".")).2 =
        (sampleEndpoint.target (sampleChange .create ".")).2 ∧
      ¬ Names sampleEndpoint.base (sampleEndpoint.target (sampleChange .delete ".")).2 .incidents
        "." := by
  refine ⟨sampleEndpoint_read, by decide +kernel, rfl, fun named => ?_⟩
  have rooted := rooted_of_ofText sampleEndpoint_read
  exact ((target_names_iff rooted (by decide)).mp named).1.1 rfl

end Endpoint

end Outbox
