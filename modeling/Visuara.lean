import Visuara.Client.Admitted
import Visuara.Client.Arriving
import Visuara.Client.Authenticate
import Visuara.Client.Autostart
import Visuara.Client.Availability
import Visuara.Client.ClipboardSync
import Visuara.Client.Confined
import Visuara.Client.Controller
import Visuara.Client.Dashboard
import Visuara.Client.Destination
import Visuara.Client.Downloaded
import Visuara.Client.Echo
import Visuara.Client.Handshake
import Visuara.Client.Interrupted
import Visuara.Client.LocalStorage
import Visuara.Client.Menu
import Visuara.Client.Pointer
import Visuara.Client.Polling
import Visuara.Client.Screen
import Visuara.Client.SetPassword
import Visuara.Client.Settings
import Visuara.Client.Switching
import Visuara.Client.Window
import Visuara.Client.Transfers
import Visuara.Common.Unpatched
import Visuara.Signaling.Authority
import Visuara.Signaling.Cookies
import Visuara.Signaling.Delivery
import Visuara.Signaling.FrontDoors
import Visuara.Signaling.Gate
import Visuara.Signaling.Isolation
import Visuara.Signaling.Otp
import Visuara.Signaling.Pairing
import Visuara.Signaling.Published
import Visuara.Signaling.Refusal
import Visuara.Signaling.Removed
import Visuara.Signaling.Schema
import Visuara.Signaling.Shown
import Visuara.Signaling.Status
import Visuara.Signaling.Told
import Visuara.Signaling.Unattended
import Visuara.Signaling.Upgraded
