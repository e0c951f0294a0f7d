/-
Who may do what with a signing request: the role table of the DocType and the
`has_permission` hook.
-/

import DscSigning.Server.Records

namespace DscSigning

inductive PermissionType where
  | read
  | write
  | create
  | delete
deriving DecidableEq

/-- The `permissions` of the DocType DSC Signing Request. -/
def rolePermissions : Role → List PermissionType
  | .dscAdministrator => [.create, .read, .write]
  | .dscSigner => [.read, .write]
  | .dscAuditor => [.read]
  | .systemManager => [.create, .read, .write]
  | .other _ => []

/-- `frappe.has_permission("DSC Signing Request", ptype)`, without a document. -/
def hasPermission (roles : List Role) (ptype : PermissionType) : Bool :=
  roles.any fun role => (rolePermissions role).contains ptype

/-- `request_has_permission`, for the roles of the user. -/
def requestHasPermission (doc : SigningRequest) (ptype : PermissionType) (user : String)
    (roles : List Role) : Bool :=
  match ptype with
  | .read =>
      roles.contains .dscAdministrator || roles.contains .dscAuditor ||
        roles.contains .systemManager || doc.expectedSignerUser == some user ||
        doc.actualSignerUser == some user
  | .write | .create =>
      roles.contains .dscAdministrator || roles.contains .systemManager ||
        (roles.contains .dscSigner && doc.expectedSignerUser == some user)
  | .delete => false

end DscSigning
