import ObjectRole.Model.Basic

/-! Which operations a resource offers. -/
namespace ObjectRole.Permission

/-- What a resource permits that lists no permissions of its own. -/
def standard : List Permission := [.create, .read, .update, .list, .login, .rateLimit]

/-- A resource's own permissions, or the standard ones, and the global ones that are missing. -/
def effective (own : Option (List Permission)) (global : List Permission) : List Permission :=
  global.foldl (fun all p => if all.contains p then all else all ++ [p]) (own.getD standard)

end ObjectRole.Permission
