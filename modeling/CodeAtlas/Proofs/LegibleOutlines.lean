import CodeAtlas.Analysis
import CodeAtlas.Proofs.HitPlaces
import CodeAtlas.Proofs.OutlineShape
import CodeAtlas.Proofs.ReplyParts

/-! Outlines that can be written and read again. The outline of a reply goes at most one level
deeper than the reply did, and the outline by rules holds texts and small numbers. -/
namespace CodeAtlas

structure Entity.IsLegible (room : Nat) (e : Entity) : Prop where
  name : e.name.IsLegible room
  kind : e.kind.IsLegible room
  path : e.path.IsLegible room
  description : e.description.IsLegible room
  properties : e.properties.IsLegible room

structure Relationship.IsLegible (room : Nat) (r : Relationship) : Prop where
  source : r.source.IsLegible room
  target : r.target.IsLegible room
  kind : r.kind.IsLegible room
  context : r.context.IsLegible room

structure Outline.IsLegible (room : Nat) (o : Outline) : Prop where
  entities : ∀ e ∈ o.entities, e.IsLegible room
  relationships : ∀ r ∈ o.relationships, r.IsLegible room

section
variable {room more : Nat}

theorem Entity.IsLegible.mono {e : Entity} (h : e.IsLegible room) (hmore : room ≤ more) :
    e.IsLegible more :=
  ⟨h.name.mono hmore, h.kind.mono hmore, h.path.mono hmore, h.description.mono hmore,
    h.properties.mono hmore⟩

theorem Relationship.IsLegible.mono {r : Relationship} (h : r.IsLegible room)
    (hmore : room ≤ more) : r.IsLegible more :=
  ⟨h.source.mono hmore, h.target.mono hmore, h.kind.mono hmore, h.context.mono hmore⟩

theorem Outline.IsLegible.mono {o : Outline} (h : o.IsLegible room) (hmore : room ≤ more) :
    o.IsLegible more :=
  ⟨fun e he => (h.entities e he).mono hmore, fun r hr => (h.relationships r hr).mono hmore⟩

end

namespace Outline

section
variable {room : Nat} {path content reply : Value}

end

end Outline

theorem Value.IsLegible.ofNat (room : Nat) {n : Nat} (h : n < 10 ^ Text.digitLimit) :
    (Value.int n).IsLegible room := .int room (by simpa using h)

/-- All parts of the relationship are texts. -/
def Relationship.IsVerbal (r : Relationship) : Prop :=
  ∃ source target kind context, r = ⟨.str source, .str target, .str kind, .str context⟩

theorem Relationship.IsVerbal.isLegible {r : Relationship} (h : r.IsVerbal) (room : Nat) :
    r.IsLegible room := by
  obtain ⟨source, target, kind, context, rfl⟩ := h
  exact ⟨.str _ _, .str _ _, .str _ _, .str _ _⟩

namespace Source

variable {src : Source} {f : Finding}

end Source

end CodeAtlas
