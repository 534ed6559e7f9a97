import WebSsh2.Library.Shell

namespace WebSsh2.Library.Utility

open WebSsh2.Library.Shell

section Commands

variable {α : Type*}

end Commands

section Usages

variable {α : Type*} [DecidableEq α] (dash : α)

variable {dash} {argument : List α}

end Usages

end WebSsh2.Library.Utility
