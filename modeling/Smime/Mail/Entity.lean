import Smime.Mail.Message

/-! A message as a tree of entities (RFC 2045), and the flat list that the
parser makes of it: every entity before its children, the children in order. -/
namespace Smime.Mail

open X690 (Octets)

/-- `source` is the entity as it stands in the message, header and body. -/
inductive Entity where
  | leaf (info : PartInfo) (source : Octets)
  | multipart (info : PartInfo) (source : Octets) (children : List Entity)

namespace Entity

def info : Entity → PartInfo
  | leaf info _ => info
  | multipart info _ _ => info

def source : Entity → Octets
  | leaf _ source => source
  | multipart _ source _ => source

/-- The direct body parts. -/
def children : Entity → List Entity
  | leaf _ _ => []
  | multipart _ _ children => children

mutual

/-- The number of entities in the tree. -/
def size : Entity → Nat
  | leaf _ _ => 1
  | multipart _ _ children => sizeAll children + 1

def sizeAll : List Entity → Nat
  | [] => 0
  | entity :: rest => size entity + sizeAll rest

end

/-- The positions of siblings of which the first stands at `id`. -/
def positions (id : Nat) : List Entity → List Nat
  | [] => []
  | entity :: rest => id :: positions (id + entity.size) rest

mutual

/-- The parts of the tree in document order, the root at position `id`. -/
def flatten (id : Nat) : Entity → List MessagePart
  | leaf info _ => [{ info with body := .leaf }]
  | multipart info _ children =>
      { info with body := .multipart (positions (id + 1) children) } ::
        flattenAll (id + 1) children

def flattenAll (id : Nat) : List Entity → List MessagePart
  | [] => []
  | entity :: rest => flatten id entity ++ flattenAll (id + entity.size) rest

end

mutual

/-- The entities of the tree in document order. -/
def entities : Entity → List Entity
  | leaf info source => [leaf info source]
  | multipart info source children => multipart info source children :: entitiesAll children

def entitiesAll : List Entity → List Entity
  | [] => []
  | entity :: rest => entities entity ++ entitiesAll rest

end

section Flattened

/-- The parts of siblings are those of their trees, whatever their position. -/
theorem flattenAll_info (id : Nat) (siblings : List Entity) :
    (flattenAll id siblings).map MessagePart.toPartInfo = (entitiesAll siblings).map info := by
  match siblings with
  | [] => rfl
  | .leaf partInfo source :: rest =>
      rw [flattenAll, entitiesAll, List.map_append, List.map_append, flattenAll_info _ rest]
      rfl
  | .multipart partInfo source children :: rest =>
      rw [flattenAll, entitiesAll, List.map_append, List.map_append, flattenAll_info _ rest, flatten,
        entities, List.map_cons, List.map_cons, flattenAll_info _ children]
      rfl

theorem flatten_info (id : Nat) (entity : Entity) :
    (entity.flatten id).map MessagePart.toPartInfo = entity.entities.map info := by
  have hAlone := flattenAll_info id [entity]
  simpa only [flattenAll, entitiesAll, List.append_nil] using hAlone

theorem length_entitiesAll (siblings : List Entity) :
    (entitiesAll siblings).length = sizeAll siblings := by
  match siblings with
  | [] => rfl
  | .leaf partInfo source :: rest =>
      rw [entitiesAll, sizeAll, List.length_append, length_entitiesAll rest]
      rfl
  | .multipart partInfo source children :: rest =>
      rw [entitiesAll, sizeAll, List.length_append, length_entitiesAll rest, entities, size,
        List.length_cons, length_entitiesAll children]

theorem length_entities (entity : Entity) : entity.entities.length = entity.size := by
  have hAlone := length_entitiesAll [entity]
  simpa only [entitiesAll, sizeAll, List.append_nil, Nat.add_zero] using hAlone

theorem size_pos (entity : Entity) : 0 < entity.size := by
  cases entity with
  | leaf => exact Nat.one_pos
  | multipart => exact Nat.succ_pos _

/-- A tree is listed with its root in front. -/
theorem exists_entities_eq (entity : Entity) :
    ∃ behind : List Entity, entity.entities = entity :: behind := by
  cases entity with
  | leaf => exact ⟨[], rfl⟩
  | multipart partInfo source children => exact ⟨entitiesAll children, rfl⟩

end Flattened

end Entity

/-- `slice::get` on a range. -/
def getRange (octets : Octets) (start stop : Nat) : Option Octets :=
  if start ≤ stop ∧ stop ≤ octets.length then some ((octets.take stop).drop start) else none

/-- The parser's view of the message `eml`, whose tree is `root`: the parts in
document order, with the offsets at which they stand. -/
structure ParsedAs (message : Message) (eml : Octets) (root : Entity) : Prop where
  parts : message.parts = root.flatten 0
  offsets : ∀ entity ∈ root.entities,
    getRange eml entity.info.offsetHeader entity.info.offsetEnd = some entity.source

namespace ParsedAs

variable {message : Message} {eml : Octets} {root : Entity}

theorem parts_info (hParsed : ParsedAs message eml root) :
    message.parts.map MessagePart.toPartInfo = root.entities.map Entity.info := by
  rw [hParsed.parts, Entity.flatten_info]

/-- The part at the position of an entity is that entity's. -/
theorem info_of_getElem (hParsed : ParsedAs message eml root) {before behind : List Entity}
    {entity : Entity} (hEntities : root.entities = before ++ entity :: behind)
    {part : MessagePart} (hPart : message.parts[before.length]? = some part) :
    part.toPartInfo = entity.info := by
  have hInfo := congrArg (·[before.length]?) hParsed.parts_info
  simp only [List.getElem?_map, hPart, hEntities, Option.map_some, List.getElem?_append_right,
    le_refl, Nat.sub_self, List.getElem?_cons_zero, Option.some.injEq] at hInfo
  exact hInfo

end ParsedAs

end Smime.Mail
