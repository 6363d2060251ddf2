import Federation.Command.Run
import Federation.Proofs.Index.Search
import Federation.Proofs.Results

namespace Federation

namespace Criterion

end Criterion

namespace Command

namespace LookUp

def asksAbout (arguments : LookUp) (role : RoleDescriptor) : Bool :=
  arguments.role.all (Text.equalIgnoringCase role.kind.name)

def isMetBy (arguments : LookUp) (entity : Entity) : Bool :=
  arguments.entityId.all (entity.entityId == ·) &&
    (arguments.role.isNone || entity.roles.any arguments.asksAbout) &&
    arguments.protocol.all fun protocol =>
      entity.roles.any fun role => arguments.asksAbout role && role.supports protocol

def pairs (arguments : LookUp) : List (String × String) :=
  [("entityID", arguments.entityId), ("role", arguments.role), ("protocol", arguments.protocol)].filterMap
    fun (name, value) => value.map fun value => (name, value)

variable {arguments : LookUp}

end LookUp

namespace LookUp

variable {arguments : LookUp}

variable {set : CriteriaSet}

end LookUp

end Command

end Federation
