import MailHost.Main
import MailHost.Proofs.Repetition
import MailHost.Proofs.SessionSimulation
import MailHost.Proofs.Registry.HandEdits
import MailHost.Proofs.AdoptedDomain
import MailHost.Proofs.Daemon.Modes
import MailHost.Proofs.Overlap
import MailHost.Proofs.DeliveryReply
import MailHost.Proofs.VirtualHosting
import MailHost.Proofs.Resolver.HostHistory
import MailHost.Proofs.RegistryFile
import MailHost.Proofs.Options.ReadBack
import MailHost.Proofs.Daemon.Settings
