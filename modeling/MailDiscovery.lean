import MailDiscovery.Main
import MailDiscovery.Proofs.Adoption
import MailDiscovery.Proofs.Batch.Call
import MailDiscovery.Proofs.DirectoryErrors
import MailDiscovery.Proofs.DirectoryLookups.Rounds
import MailDiscovery.Proofs.HopBudget.Call
import MailDiscovery.Proofs.KnownUrl
import MailDiscovery.Proofs.LegacyRedirection
import MailDiscovery.Proofs.Provenance
import MailDiscovery.Proofs.Remembered
import MailDiscovery.Proofs.Requests.RoundTrip
import MailDiscovery.Proofs.Search.Order
import MailDiscovery.Proofs.Unapproved
import MailDiscovery.Service.PartnerAccess
import MailDiscovery.ServiceRecord
import MailDiscovery.Proofs.Batch.Identities
import MailDiscovery.Proofs.HandedBack
import MailDiscovery.Proofs.Secrecy
import MailDiscovery.Proofs.AnsweredAddress
import MailDiscovery.Proofs.RequestBounds
import MailDiscovery.Proofs.LastFailure
import MailDiscovery.Proofs.PartnerAccess
import MailDiscovery.Proofs.Padding.Reading
import MailDiscovery.Proofs.RequestedSettings
import MailDiscovery.Proofs.Location
import MailDiscovery.Proofs.WellKnownHosts
import MailDiscovery.Proofs.RedirectionTarget
import MailDiscovery.Proofs.FlavourAdjustment
import MailDiscovery.Proofs.LegacyPath
import MailDiscovery.Proofs.LegacySettings.Arrangement
import MailDiscovery.Proofs.LegacySpelling.Reading
import MailDiscovery.Proofs.RecordChoice
import MailDiscovery.Proofs.BasicHeader
import MailDiscovery.Proofs.RedirectionHistory
import MailDiscovery.Proofs.Markup.Escaping
