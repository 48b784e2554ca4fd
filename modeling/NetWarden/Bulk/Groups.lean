import NetWarden.Bulk.Outcome

/-!
# Groups without ports

A group is *unattached* if no network port is bound to it. The group that every project has is never
counted as one. All groups are looked up with one call, for the ports bound to any of them; if that
call fails, nothing is known of any group.
-/

namespace NetWarden.Bulk

/-- Whether a group may go: no port is bound to it, and it is not the one that every project has. -/
def isUnattached (ports : List NetworkPort) (g : Group) : Bool :=
  !(ports.any fun p ↦ p.groupIds.contains g.id) && g.name != Group.defaultName

/-- The unattached ones among groups. No groups need no call. -/
def unattachedGroups (groups : List Group) :
    StoreM (Except TransportError (List Group)) := do
  if groups.isEmpty then return .ok []
  else
    let ports ← Store.listPorts (sortedDistinct (groups.map Group.id))
    return ports.map fun ports ↦ groups.filter (isUnattached ports)

/-- Deletes a group. -/
def deleteGroup (g : Group) : StoreM (Outcome Group) := do
  return (← Outcome.of g.id .deleteGroup (Store.deleteGroup g.id)).map fun _ ↦ g

/-- Deletes groups one by one. -/
def deleteGroups (groups : List Group) : StoreM (BulkResult Group) := do
  return .ofOutcomes (← groups.mapM deleteGroup)

end NetWarden.Bulk
