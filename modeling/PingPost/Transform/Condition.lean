import PingPost.Transform.Basic

/-! Transforms that choose among values. -/

namespace PingPost.Transform

/-- The first argument in place of a missing value. -/
def ifEmpty : Transform := fun v args =>
  .ok (if v.isMissing then args.head?.getD .null else v)

/-- The second argument where the value equals the first, else the third. -/
def equals : Transform := fun v args =>
  match args with
  | [expected, yes, no] => .ok (if v.looselyEqual expected then yes else no)
  | _ => refuse "conditional.equals requires [match, then, else]"

/-- The first of the value and the arguments that is not missing. -/
def coalesce : Transform := fun v args =>
  .ok (((v :: args).find? fun w => !w.isMissing).getD .null)

end PingPost.Transform
