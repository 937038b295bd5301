import NetlinkIpvs.Tlv
import NetlinkIpvs.LastWins
import NetlinkIpvs.ByteOrder
import NetlinkIpvs.Bits
import NetlinkIpvs.Slice
import NetlinkIpvs.Outcome
import NetlinkIpvs.Session
import NetlinkIpvs.Crates
import NetlinkIpvs.Reference
import NetlinkIpvs.Nlas
import NetlinkIpvs.Netmask
import NetlinkIpvs.Service
import NetlinkIpvs.Destination
import NetlinkIpvs.Ctrl
import NetlinkIpvs.Emission
import NetlinkIpvs.Payload
import NetlinkIpvs.Sending
import NetlinkIpvs.AnyOrder
import NetlinkIpvs.RoundTrip
import NetlinkIpvs.Coverage
import NetlinkIpvs.Panics
import NetlinkIpvs.Malformed
import NetlinkIpvs.Requirements
import NetlinkIpvs.Resending
import NetlinkIpvs.Masks
import NetlinkIpvs.Statistics
import NetlinkIpvs.Agreement
import NetlinkIpvs.Layout
import NetlinkIpvs.Refusals
import NetlinkIpvs.Packets
import NetlinkIpvs.Room
import NetlinkIpvs.Serialize
import NetlinkIpvs.Distinct
import NetlinkIpvs.Echo
import NetlinkIpvs.Cycles
import NetlinkIpvs.BigEndian
import NetlinkIpvs.Listing
import NetlinkIpvs.Queries
import NetlinkIpvs.Replies
import NetlinkIpvs.Report
import NetlinkIpvs.Manage
