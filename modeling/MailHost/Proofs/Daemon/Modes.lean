import MailHost.Daemon.Run
import MailHost.Proofs.StorageConfiguration

/-!
# The two modes of the daemon

A run with a domain to check and a run without one configure the same host, and
only then part.  The first asks whether the host accepts mail for the domain,
the second for all domains, and the host answers both alike.  Whatever fails
fails in both, and neither writes anything after the configuration.
-/

namespace MailHost

namespace LocalDomains

end LocalDomains

namespace Daemon

/-! ## Reports -/

section

variable (host : LocalDomains FileRegistry) (resolver : Resolver)

end

/-! ## Runs -/

section

variable {tree : FileTree} {resolver : Resolver} {environment : Environment}
  {settings : Settings} {host : LocalDomains FileRegistry}

/-- How the configuration ends with which a run starts, and the host that it leaves. -/
def configured (tree : FileTree) (resolver : Resolver) (environment : Environment)
    (settings : Settings) : Except DomainsError Unit × LocalDomains FileRegistry :=
  ((LocalDomains.ofStore (FileRegistry.mk settings.store tree)).configure resolver environment
    settings.options).value

end

end Daemon

end MailHost
